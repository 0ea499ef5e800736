import Mathlib.Data.List.Forall2
import RequestChain.Context

/-! # Paths in any letter case

A segment selects the field of exactly its name, and only then the first one whose name differs in
the case of ASCII letters. If the names of an object are different in more than case, both are one
choice, and positions of items have no letters. So the case of the letters in a path does not matter
as long as the names of the objects on its way are different in more than case. An object that holds
names which are not still gives each field under its exact name.
-/

namespace RequestChain

open Text

namespace Text

/-- Two texts that differ in nothing but the case of ASCII letters. -/
def CaseAlike (left right : String) : Prop :=
  equalsIgnoringAsciiCase left right = true

instance (left right : String) : Decidable (CaseAlike left right) :=
  inferInstanceAs (Decidable (equalsIgnoringAsciiCase left right = true))

theorem alike_iff {left right : String} :
    CaseAlike left right ↔ left.toList.map Char.toLower = right.toList.map Char.toLower :=
  beq_iff_eq

namespace CaseAlike

variable {first second third : String}

theorem refl (text : String) : CaseAlike text text := alike_iff.mpr rfl

theorem symm (alike : CaseAlike first second) : CaseAlike second first :=
  alike_iff.mpr (alike_iff.mp alike).symm

theorem trans (alike : CaseAlike first second) (next : CaseAlike second third) :
    CaseAlike first third :=
  alike_iff.mpr ((alike_iff.mp alike).trans (alike_iff.mp next))

end CaseAlike

/-- Characters in front of the letters have no other case. -/
private theorem eq_of_toLower_eq {c d : Char} (caseless : c.toNat < 0x41)
    (same : c.toLower = d.toLower) : c = d := by
  have itself : c.toLower = c := by
    delta Char.toLower
    rw [dif_neg]
    rintro ⟨capital, -⟩
    have above : 0x41 ≤ c.toNat := UInt32.le_iff_toNat_le.mp capital
    omega
  rw [itself] at same
  rw [same]
  delta Char.toLower
  split
  next capital =>
    -- The lower case of a capital stands behind all capitals.
    have lower : d.toLower.toNat = d.toNat + 0x20 := by
      have high : d.toNat ≤ 0x5a := UInt32.le_iff_toNat_le.mp capital.2
      delta Char.toLower
      rw [dif_pos capital]
      change (d.val + 32).toNat = _
      rw [UInt32.toNat_add]
      exact Nat.mod_eq_of_lt (by change d.toNat + 32 < 4294967296; omega)
    rw [← same] at lower
    have low : 0x41 ≤ d.toNat := UInt32.le_iff_toNat_le.mp capital.1
    omega
  · rfl

end Text

namespace Json

/-! ## Positions -/

private theorem caseless_of_parseIndex? {text : String} {position : Nat}
    (read : parseIndex? text = some position) : ∀ c ∈ text.toList, c.toNat < 0x41 := by
  have caseless {c : Char} (digit : c.isDigit = true) : c.toNat < 0x41 := by
    simp only [Char.isDigit, Bool.and_eq_true, decide_eq_true_eq] at digit
    have high : c.toNat ≤ 0x39 := UInt32.le_iff_toNat_le.mp digit.2
    omega
  intro c member
  cases shape : text.toList with
  | nil =>
    rw [shape] at member
    cases member
  | cons first rest =>
    rw [shape] at member
    by_cases sign : first = '+'
    · subst sign
      have digits : ∀ c ∈ rest, c.isDigit = true := by
        refine fun c member => Decidable.byContradiction fun other => ?_
        have refused : rest.all Char.isDigit = false :=
          List.all_eq_false.mpr ⟨c, member, other⟩
        simp [parseIndex?, shape, refused] at read
      rcases List.mem_cons.mp member with rfl | behind
      · decide
      · exact caseless (digits c behind)
    · have digits : ∀ c ∈ first :: rest, c.isDigit = true := by
        simp [parseIndex?, shape, sign] at read
        exact List.forall_mem_cons.mpr read.1
      exact caseless (digits c member)

/-- Positions have no letters. -/
theorem parseIndex?_congr {left right : String} (alike : CaseAlike left right) :
    parseIndex? left = parseIndex? right := by
  have same {left right : String} {position : Nat} (alike : CaseAlike left right)
      (read : parseIndex? left = some position) : parseIndex? right = some position := by
    have caseless := caseless_of_parseIndex? read
    have equal : left = right := by
      refine String.toList_inj.mp ?_
      refine List.ext_getElem? fun place => ?_
      have lower := congrArg (·[place]?) (alike_iff.mp alike)
      simp only [List.getElem?_map] at lower
      cases first : left.toList[place]? with
      | none =>
        rw [first, Option.map_none] at lower
        exact (Option.map_eq_none_iff.mp lower.symm).symm
      | some c =>
        rw [first, Option.map_some] at lower
        obtain ⟨d, second, isLower⟩ := Option.map_eq_some_iff.mp lower.symm
        rw [second, eq_of_toLower_eq (caseless c (List.mem_of_getElem? first)) isLower.symm]
    rw [← equal, read]
  refine Option.ext fun position => ⟨same alike, same alike.symm⟩

/-! ## Fields -/

/-- The names of the fields are different in more than letter case. -/
def CaseApart (fields : List (String × Json)) : Prop :=
  fields.Pairwise fun field other => ¬ CaseAlike field.1 other.1

instance (fields : List (String × Json)) : Decidable (CaseApart fields) :=
  inferInstanceAs (Decidable (fields.Pairwise fun field other => ¬ CaseAlike field.1 other.1))

/-- With such names, a segment selects the field whose name it is in any case. -/
theorem select?_object_of_apart {fields : List (String × Json)} (apart : CaseApart fields)
    (segment : String) :
    (Json.object fields).select? segment =
      (fields.find? fun field => equalsIgnoringAsciiCase field.1 segment).map Prod.snd := by
  induction fields with
  | nil => rfl
  | cons field rest ih =>
    obtain ⟨name, held⟩ := field
    obtain ⟨others, behind⟩ := List.pairwise_cons.mp apart
    rw [select?, List.lookup_cons, List.find?_cons]
    by_cases alike : CaseAlike name segment
    · have chosen : equalsIgnoringAsciiCase name segment = true := alike
      simp only [chosen, Option.map_some]
      split
      · rw [Option.some_or]
      · have absent : rest.lookup segment = none := by
          refine List.lookup_eq_none_iff.mpr fun other member => bne_iff_ne.mpr ?_
          rintro rfl
          exact others other member alike
        rw [absent, Option.none_or]
    · have differ : (segment == name) = false := by
        refine beq_eq_false_iff_ne.mpr ?_
        rintro rfl
        exact alike (.refl segment)
      have other : equalsIgnoringAsciiCase name segment = false := Bool.eq_false_iff.mpr alike
      simp only [differ, other]
      exact ih behind

theorem select?_congr {value : Json} {left right : String} (alike : CaseAlike left right)
    (apart : ∀ fields, value = .object fields → CaseApart fields) :
    value.select? left = value.select? right := by
  cases value with
  | object fields =>
    have same : (fun field : String × Json => equalsIgnoringAsciiCase field.1 left) =
        fun field => equalsIgnoringAsciiCase field.1 right := by
      funext field
      exact Bool.eq_iff_iff.mpr ⟨fun found => CaseAlike.trans found alike,
        fun found => CaseAlike.trans found alike.symm⟩
    rw [select?_object_of_apart (apart fields rfl), select?_object_of_apart (apart fields rfl),
      same]
  | array items => rw [select?, select?, parseIndex?_congr alike]
  | _ => rfl

/-- A field is selected by its exact name, whatever other names there are. -/
theorem select?_of_mem {fields : List (String × Json)} (distinct : (fields.map Prod.fst).Nodup)
    {field : String × Json} (member : field ∈ fields) :
    (Json.object fields).select? field.1 = some field.2 := by
  have found : fields.lookup field.1 = some field.2 :=
    OrderedMap.get?_of_mem ⟨fields, distinct⟩ member
  rw [select?, found, Option.some_or]

/-! ## Walks -/

theorem atPath?_append (value : Json) (front back : List String) :
    value.atPath? (front ++ back) = (value.atPath? front).bind (·.atPath? back) := by
  induction front generalizing value with
  | nil => rfl
  | cons segment rest ih =>
    rw [List.cons_append, atPath?, atPath?, Option.bind_assoc]
    exact congrArg _ (funext fun part => ih part)

/-- Objects in which a walk looks for a name have names that are different in more than case. -/
def WalkApart (value : Json) (path : List String) : Prop :=
  ∀ front segment back fields, path = front ++ segment :: back →
    value.atPath? front = some (.object fields) → CaseApart fields

theorem atPath?_congr {value : Json} {left right : List String}
    (alike : List.Forall₂ CaseAlike left right)
    (apart : value.WalkApart left) : value.atPath? left = value.atPath? right := by
  induction alike generalizing value with
  | nil => rfl
  | @cons segment other rest others same tail ih =>
    have here : value.select? segment = value.select? other :=
      select?_congr same fun fields shape =>
        apart [] segment rest fields rfl (congrArg some shape)
    rw [atPath?, atPath?, ← here]
    cases selected : value.select? segment with
    | none => rfl
    | some part =>
      refine ih fun front next back fields shape reached => ?_
      refine apart (segment :: front) next back fields (by rw [shape, List.cons_append]) ?_
      rw [atPath?, selected]
      exact reached

end Json

namespace Context

/-- The letter case of a path into a recorded step does not matter, as long as the names in each
object that it looks a name up in are different in more than case. And a name of an object selects
its value in any event, also if others differ from it in case only. -/
theorem stepValue_ignoresCase (context : Context) (stepId : String) :
    (∀ left right, List.Forall₂ CaseAlike left right →
      (∀ front segment back fields, left = front ++ segment :: back →
        context.stepValue stepId front = some (.object fields) → Json.CaseApart fields) →
      context.stepValue stepId left = context.stepValue stepId right) ∧
    ∀ path fields, context.stepValue stepId path = some (.object fields) →
      (fields.map Prod.fst).Nodup → ∀ field ∈ fields, ∀ rest,
        context.stepValue stepId (path ++ field.1 :: rest) = field.2.atPath? rest := by
  constructor
  · intro left right alike apart
    rw [stepValue, stepValue]
    cases found : context.steps.get? stepId with
    | none => rfl
    | some step =>
      refine Json.atPath?_congr alike fun front segment back fields shape reached => ?_
      refine apart front segment back fields shape ?_
      rw [stepValue, found]
      exact reached
  · intro path fields reached distinct field member rest
    obtain ⟨step, found, leads⟩ := Option.bind_eq_some_iff.mp reached
    rw [stepValue, found, Option.bind_some, Json.atPath?_append, leads, Option.bind_some,
      Json.atPath?, Json.select?_of_mem distinct member, Option.bind_some]

/-- A path through objects and an array, and an object whose names differ in case only. -/
theorem stepValue_ignoresCase_twoSteps :
    let twins : List (String × Json) := [("a", .bool true), ("A", .array [.string "y"])]
    let context : Context := { steps := ⟨[
      ("s", .object [("Items", .array [.object [("Id", .string "x"), ("n", .null)]])]),
      ("t", .object twins)], by simp⟩ }
    List.Forall₂ CaseAlike ["items", "+0", "ID"] ["ITEMS", "+0", "id"] ∧
      context.stepValue "s" ["items", "+0", "ID"] = context.stepValue "s" ["ITEMS", "+0", "id"] ∧
      context.stepValue "s" ["items", "+0", "ID"] = some (.string "x") ∧
      (twins.map Prod.fst).Nodup ∧ context.stepValue "t" ["A", "0"] = some (.string "y") := by
  intro twins context
  have alike : List.Forall₂ CaseAlike ["items", "+0", "ID"] ["ITEMS", "+0", "id"] := by
    refine .cons ?_ (.cons ?_ (.cons ?_ .nil)) <;> decide
  have distinct : (twins.map Prod.fst).Nodup := by decide
  refine ⟨alike, (stepValue_ignoresCase context "s").1 _ _ alike ?_, rfl, distinct, ?_⟩
  · intro front segment back fields shape reached
    match front with
    | [] =>
      cases reached
      decide
    | [first] =>
      cases shape
      cases reached
    | [first, second] =>
      cases shape
      cases reached
      decide
    | first :: second :: third :: rest => simp at shape
  · have member : ("A", Json.array [.string "y"]) ∈ twins :=
      List.mem_cons_of_mem _ List.mem_cons_self
    exact (stepValue_ignoresCase context "t").2 [] twins rfl distinct _ member ["0"]

end Context

end RequestChain
