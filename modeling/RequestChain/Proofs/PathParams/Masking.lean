import Mathlib.Data.List.TakeWhile
import RequestChain.PathParams
import RequestChain.Proofs.Template.Composition
import RequestChain.Proofs.Text.Cutting

/-! # Parameters in place of their placeholders

A URL template is taken as plain literals and placeholders. As long as no placeholder holds that of
a parameter inside, and no value holds an opening brace, putting one parameter after the other in
place is the same as filling every placeholder that names a parameter, all at once.
-/

namespace RequestChain.PathParams

open Template Text

/-! ## Placeholders of a name -/

private theorem skipBlanksThen_blanks {next : List Char → Option (List Char)}
    {blanks text behind : List Char} (blank : ∀ c ∈ blanks, isBlank c = true)
    (found : skipBlanksThen next text = some behind) :
    skipBlanksThen next (blanks ++ text) = some behind := by
  induction blanks with
  | nil => exact found
  | cons c rest ih =>
    obtain ⟨first, others⟩ := List.forall_mem_cons.mp blank
    rw [List.cons_append, skipBlanksThen, if_pos first, ih others, Option.some_or]

private theorem skipBlanksThen_visible {next : List Char → Option (List Char)} {c : Char}
    (rest : List Char) (visible : isBlank c = false) :
    skipBlanksThen next (c :: rest) = next (c :: rest) := by
  simp [skipBlanksThen, visible]

private theorem exists_of_skipBlanksThen {next : List Char → Option (List Char)}
    {text behind : List Char} (found : skipBlanksThen next text = some behind) :
    ∃ blanks rest, text = blanks ++ rest ∧ (∀ c ∈ blanks, isBlank c = true) ∧
      next rest = some behind := by
  induction text with
  | nil => exact ⟨[], [], rfl, by simp, found⟩
  | cons c rest ih =>
    rw [skipBlanksThen, Option.or_eq_some_iff] at found
    rcases found with skipped | ⟨-, here⟩
    · by_cases blank : isBlank c = true
      · rw [if_pos blank] at skipped
        obtain ⟨blanks, tail, rfl, areBlank, found⟩ := ih skipped
        exact ⟨c :: blanks, tail, rfl, List.forall_mem_cons.mpr ⟨blank, areBlank⟩, found⟩
      · rw [if_neg blank] at skipped
        cases skipped
    · exact ⟨[], c :: rest, rfl, by simp, here⟩

/-- The text of a placeholder. -/
def inBraces (inner : List Char) : List Char :=
  '{' :: '{' :: (inner ++ ['}', '}'])

/-- A text holds a placeholder of that name, blanks around the name allowed. -/
def Holds (name text : List Char) : Prop :=
  ∃ before after, (∀ c ∈ before, isBlank c = true) ∧ (∀ c ∈ after, isBlank c = true) ∧
    inBraces (before ++ name ++ after) <:+: text

/-- A placeholder of the name is all that is matched. -/
theorem exists_of_matchPlaceholder? {name text behind : List Char}
    (found : matchPlaceholder? name text = some behind) :
    ∃ before after, (∀ c ∈ before, isBlank c = true) ∧ (∀ c ∈ after, isBlank c = true) ∧
      text = inBraces (before ++ name ++ after) ++ behind := by
  simp only [matchPlaceholder?, Option.bind_eq_some_iff] at found
  obtain ⟨opened, opening, found⟩ := found
  obtain ⟨before, rest, rfl, beforeBlank, found⟩ := exists_of_skipBlanksThen found
  obtain ⟨named, isName, found⟩ := Option.bind_eq_some_iff.mp found
  obtain ⟨after, rest', rfl, afterBlank, closing⟩ := exists_of_skipBlanksThen found
  rw [dropPrefix?_eq_some_iff] at opening isName closing
  subst isName closing opening
  exact ⟨before, after, beforeBlank, afterBlank, by simp [inBraces]⟩

/-- A placeholder of the name is matched. The name may be empty, but no blank comes first in it. -/
theorem matchPlaceholder?_inBraces {name before after : List Char}
    (visible : ∀ c, name.head? = some c → isBlank c = false)
    (beforeBlank : ∀ c ∈ before, isBlank c = true) (afterBlank : ∀ c ∈ after, isBlank c = true)
    (behind : List Char) :
    matchPlaceholder? name (inBraces (before ++ name ++ after) ++ behind) = some behind := by
  have opening : dropPrefix? ['{', '{'] (inBraces (before ++ name ++ after) ++ behind) =
      some (before ++ (name ++ (after ++ ('}' :: '}' :: behind)))) := by
    rw [dropPrefix?_eq_some_iff]
    simp [inBraces]
  have named : dropPrefix? name (name ++ (after ++ ('}' :: '}' :: behind))) =
      some (after ++ ('}' :: '}' :: behind)) := dropPrefix?_eq_some_iff.mpr rfl
  have closing : skipBlanksThen (dropPrefix? ['}', '}']) (after ++ ('}' :: '}' :: behind)) =
      some behind := by
    refine skipBlanksThen_blanks afterBlank ?_
    rw [skipBlanksThen_visible _ (by decide)]
    exact dropPrefix?_eq_some_iff.mpr rfl
  rw [matchPlaceholder?, opening, Option.bind_some]
  refine skipBlanksThen_blanks beforeBlank ?_
  cases name with
  | nil =>
    -- all the blanks are skipped before the empty name is found
    rw [List.nil_append]
    refine skipBlanksThen_blanks afterBlank ?_
    rw [skipBlanksThen_visible _ (by decide)]
    exact (skipBlanksThen_visible _ (by decide)).trans (dropPrefix?_eq_some_iff.mpr rfl)
  | cons c rest =>
    rw [List.cons_append] at named ⊢
    rw [skipBlanksThen_visible _ (visible c rfl), named, Option.bind_some, closing]

/-! ## Replacing -/

section Replaces

variable {match? : List Char → Option (List Char)} {value : List Char}

theorem replaceMatches_of_none {c : Char} {rest : List Char}
    (unmatched : match? (c :: rest) = none) :
    replaceMatches match? value (c :: rest) = c :: replaceMatches match? value rest := by
  rw [replaceMatches, unmatched]

theorem replaceMatches_of_some {text behind : List Char} (matched : match? text = some behind)
    (shorter : behind.length < text.length) :
    replaceMatches match? value text = value ++ replaceMatches match? value behind := by
  cases text with
  | nil => cases shorter
  | cons c rest =>
    rw [replaceMatches, matched]
    simp only [if_pos (Nat.le_of_lt_succ shorter)]

/-- Whatever follows, one text becomes the other and replacing goes on behind it. -/
def Replaces (match? : List Char → Option (List Char)) (value text text' : List Char) : Prop :=
  ∀ rest, replaceMatches match? value (text ++ rest) = text' ++ replaceMatches match? value rest

theorem Replaces.cons {c : Char} {text text' : List Char}
    (unmatched : ∀ rest, match? (c :: (text ++ rest)) = none)
    (others : Replaces match? value text text') :
    Replaces match? value (c :: text) (c :: text') := by
  intro rest
  rw [List.cons_append, replaceMatches_of_none (unmatched rest), others, List.cons_append]

theorem Replaces.flatMap {α : Type} {items : List α} {first second : α → List Char}
    (each : ∀ item ∈ items, Replaces match? value (first item) (second item)) :
    replaceMatches match? value (items.flatMap first) = items.flatMap second := by
  induction items with
  | nil => rw [List.flatMap_nil, List.flatMap_nil, replaceMatches]
  | cons item rest ih =>
    obtain ⟨here, others⟩ := List.forall_mem_cons.mp each
    rw [List.flatMap_cons, List.flatMap_cons, here, ih others]

/-- Texts none of whose characters can begin a match stay. -/
theorem replaces_of_unmatched {text : List Char}
    (unmatched : ∀ c ∈ text, ∀ rest, match? (c :: rest) = none) :
    Replaces match? value text text := by
  induction text with
  | nil => exact fun rest => rfl
  | cons c rest ih =>
    obtain ⟨first, others⟩ := List.forall_mem_cons.mp unmatched
    exact .cons (fun behind => first (rest ++ behind)) (ih others)

end Replaces

private theorem matchPlaceholder?_of_ne {name : List Char} {c : Char} (notOpening : c ≠ '{')
    (rest : List Char) : matchPlaceholder? name (c :: rest) = none := by
  simp [matchPlaceholder?, dropPrefix?, Ne.symm notOpening]

private theorem replaces_of_noBrace {name value text : List Char} (noBrace : '{' ∉ text) :
    Replaces (matchPlaceholder? name) value text text :=
  replaces_of_unmatched fun c member =>
    matchPlaceholder?_of_ne fun same : c = '{' => noBrace (same ▸ member)

private theorem replaces_inBraces {name before after : List Char} (value : List Char)
    (isName : isName name = true) (beforeBlank : ∀ c ∈ before, isBlank c = true)
    (afterBlank : ∀ c ∈ after, isBlank c = true) :
    Replaces (matchPlaceholder? name) value (inBraces (before ++ name ++ after)) value := by
  intro rest
  have visible : ∀ c, name.head? = some c → isBlank c = false := by
    simp only [Template.isName, isNameChar, Bool.and_eq_true, List.all_eq_true,
      Bool.not_eq_true'] at isName
    exact fun c head => (isName.2 c (List.mem_of_head? head)).1
  refine replaceMatches_of_some (matchPlaceholder?_inBraces visible beforeBlank afterBlank rest) ?_
  simp only [inBraces, List.length_cons, List.length_append]
  omega

private theorem notClosing_of_isBlank {blanks : List Char}
    (blank : ∀ c ∈ blanks, isBlank c = true) : '}' ∉ blanks := fun member => absurd (blank _ member) (by decide)

private theorem notClosing_of_isName {name : List Char} (isName : isName name = true) :
    '}' ∉ name := by
  intro member
  simp only [Template.isName, Bool.and_eq_true, List.all_eq_true] at isName
  exact absurd (isName.2 _ member) (by decide)

/-- Of two texts that begin alike, the one whose closing braces are its first ends no later. -/
private theorem prefix_of_closed {body text left behind : List Char} (inside : '}' ∉ body)
    (same : text ++ ['}', '}'] ++ behind = body ++ ['}', '}'] ++ left) :
    body ++ ['}', '}'] <+: text ++ ['}', '}'] := by
  have first : body ++ ['}', '}'] <+: text ++ ['}', '}'] ++ behind := ⟨left, same.symm⟩
  refine List.prefix_of_prefix_length_le first (List.prefix_append _ _) ?_
  by_contra longer
  simp only [List.length_append, List.length_cons, List.length_nil] at longer
  have closing : (body ++ ['}', '}'] ++ left)[text.length]? = some '}' := by
    rw [← same]
    simp
  rw [List.append_assoc, List.getElem?_append_left (by omega)] at closing
  exact inside (List.mem_of_getElem? closing)

/-- A text that ends in closing braces stays if it holds no placeholder of the name: what follows
cannot complete one, since a placeholder has no closing brace before its end. -/
private theorem replaces_of_not_holds {name : List Char} (value : List Char)
    (isName : isName name = true) {text : List Char} (none : ¬Holds name (text ++ ['}', '}'])) :
    Replaces (matchPlaceholder? name) value (text ++ ['}', '}']) (text ++ ['}', '}']) := by
  induction text with
  | nil => exact replaces_of_noBrace (by decide)
  | cons c rest ih =>
    have others : ¬Holds name (rest ++ ['}', '}']) := by
      rintro ⟨before, after, beforeBlank, afterBlank, inside⟩
      exact none ⟨before, after, beforeBlank, afterBlank,
        inside.trans (List.suffix_cons _ _).isInfix⟩
    refine Replaces.cons (fun behind => ?_) (ih others)
    refine Option.eq_none_iff_forall_ne_some.mpr fun left found => none ?_
    obtain ⟨before, after, beforeBlank, afterBlank, shape⟩ := exists_of_matchPlaceholder? found
    have body : '}' ∉ '{' :: '{' :: (before ++ name ++ after) := by
      simp [notClosing_of_isBlank beforeBlank, notClosing_of_isBlank afterBlank,
        notClosing_of_isName isName]
    exact ⟨before, after, beforeBlank, afterBlank, (prefix_of_closed body shape).isInfix⟩

/-! ## URL templates -/

/-- The name in a placeholder. -/
def nameOf (inner : List Char) : String :=
  String.ofList (trim inner)

/-- A piece with the value that there is for its name in place of a placeholder. -/
def fillPiece (value? : String → Option String) : Piece → List Char
  | .literal text => text
  | .placeholder inner => ((value? (nameOf inner)).map String.toList).getD (inBraces inner)

/-- A text made of pieces, filled where there are values. -/
def fillPieces (value? : String → Option String) (pieces : List Piece) : List Char :=
  pieces.flatMap (fillPiece value?)

/-- Literals without braces and backslashes, and placeholders. Apart from the placeholders of the
names themselves, no placeholder holds one of these. -/
structure IsUrlTemplate (names : List String) (pieces : List Piece) : Prop where
  literals : ∀ text, .literal text ∈ pieces → Bare text ∧ '}' ∉ text
  closed : ∀ inner, .placeholder inner ∈ pieces → nameOf inner ∉ names →
    splitPlaceholder 0 none (inner ++ ['}', '}']) = some (inner, [])
  others : ∀ inner, .placeholder inner ∈ pieces → nameOf inner ∉ names →
    ∀ name ∈ names, ¬Holds name.toList (inBraces inner)

private theorem trim_blanks_name {name before after : List Char} (isName : isName name = true)
    (beforeBlank : ∀ c ∈ before, isBlank c = true) (afterBlank : ∀ c ∈ after, isBlank c = true) :
    trim (before ++ name ++ after) = name := by
  simp only [Template.isName, Bool.and_eq_true, Bool.not_eq_true', List.isEmpty_eq_false_iff,
    List.all_eq_true, isNameChar] at isName
  obtain ⟨nonempty, characters⟩ := isName
  exact trim_blanks nonempty (fun c head => (characters c (List.mem_of_head? head)).1)
    (fun c last => (characters c (List.mem_of_getLast? last)).1) beforeBlank afterBlank

/-- A placeholder of a name holds no quotation marks and no braces inside. -/
private theorem not_mem_of_isScanned {name before after : List Char} (isName : isName name = true)
    (beforeBlank : ∀ c ∈ before, isBlank c = true) (afterBlank : ∀ c ∈ after, isBlank c = true)
    {c : Char} (scanned : isScanned c = true) : c ∉ before ++ name ++ after := by
  simp only [isScanned, isQuote, Bool.or_eq_true, beq_iff_eq] at scanned
  simp only [Template.isName, Bool.and_eq_true, List.all_eq_true] at isName
  have visible : isBlank c = false := by rcases scanned with ((rfl | rfl) | rfl) | rfl <;> rfl
  have noName : isNameChar c = false := by rcases scanned with ((rfl | rfl) | rfl) | rfl <;> rfl
  intro member
  rcases List.mem_append.mp member with member | inAfter
  · rcases List.mem_append.mp member with inBefore | inName
    · exact absurd (beforeBlank _ inBefore) (by simp [visible])
    · exact absurd (isName.2 _ inName) (by simp [noName])
  · exact absurd (afterBlank _ inAfter) (by simp [visible])

/-- A placeholder without braces inside holds no other one. -/
private theorem eq_of_inBraces_infix {inner body : List Char} (noOpening : '{' ∉ inner)
    (noClosing : '}' ∉ inner) (inside : inBraces body <:+: inBraces inner) : inner = body := by
  obtain ⟨start, stop, same⟩ := inside
  have opening : List.count '{' start = 0 := by
    have number := congrArg (List.count '{') same
    simp [inBraces, List.count_eq_zero_of_not_mem noOpening] at number
    omega
  have closing : List.count '}' stop = 0 := by
    have number := congrArg (List.count '}') same
    simp [inBraces, List.count_eq_zero_of_not_mem noClosing] at number
    omega
  obtain rfl : start = [] := by
    cases start with
    | nil => rfl
    | cons c rest =>
      obtain ⟨rfl, -⟩ := List.cons.inj same
      simp at opening
  obtain rfl : stop = [] := by
    rcases stop.eq_nil_or_concat with empty | ⟨rest, c, rfl⟩
    · exact empty
    · have last : c = '}' := by
        have ends := congrArg List.getLast? same
        rw [List.concat_eq_append, ← List.append_assoc, List.getLast?_concat, inBraces,
          ← List.cons_append, ← List.cons_append, List.getLast?_append] at ends
        exact Option.some.inj ends
      simp [last] at closing
  simpa [inBraces, eq_comm] using same

/-- A placeholder of one name holds none of another. -/
private theorem not_holds_of_name {name inner : List Char} (isName' : isName name = true)
    (isName : isName (trim inner) = true) (other : trim inner ≠ name) :
    ¬Holds name (inBraces inner) := by
  rintro ⟨before, after, beforeBlank, afterBlank, inside⟩
  obtain ⟨before', after', shape, beforeBlank', afterBlank'⟩ := exists_trim inner
  have same : inner = before ++ name ++ after := by
    refine eq_of_inBraces_infix ?_ ?_ inside
    · exact shape ▸ not_mem_of_isScanned isName beforeBlank' afterBlank' rfl
    · exact shape ▸ not_mem_of_isScanned isName beforeBlank' afterBlank' rfl
  exact other (same ▸ trim_blanks_name isName' beforeBlank afterBlank)

/-- A literal without braces and backslashes, or a placeholder of a name. -/
def isPlainPiece : Piece → Bool
  | .literal text => decide (Bare text ∧ '}' ∉ text)
  | .placeholder inner => isName (trim inner)

/-- A template whose placeholders all hold names is a URL template for every list of names. -/
theorem isUrlTemplate_of_plain {names : List String} {pieces : List Piece}
    (plain : ∀ piece ∈ pieces, isPlainPiece piece = true)
    (areNames : ∀ name ∈ names, isName name.toList = true) : IsUrlTemplate names pieces where
  literals text member := of_decide_eq_true (plain _ member)
  closed inner member _ := by
    obtain ⟨before, after, shape, beforeBlank, afterBlank⟩ := exists_trim inner
    refine splitPlaceholder_of_inert (inert_of_plain fun c inside => ?_) []
    refine Bool.eq_false_iff.mpr fun scanned => ?_
    rw [shape] at inside
    exact not_mem_of_isScanned (plain _ member) beforeBlank afterBlank scanned inside
  others inner member unknown name listed := by
    refine not_holds_of_name (areNames name listed) (plain _ member) fun same => ?_
    rw [nameOf, same, String.ofList_toList] at unknown
    exact unknown listed

section Filling

variable {names : List String} {pieces : List Piece}

/-- A further parameter in place. -/
private theorem replaces_fillPiece (url : IsUrlTemplate names pieces)
    (areNames : ∀ name ∈ names, isName name.toList = true) {known : String → Option String}
    (noBrace : ∀ name value, known name = some value → '{' ∉ value.toList) {name : String}
    (listed : name ∈ names) (fresh : known name = none) (value : String) {piece : Piece}
    (member : piece ∈ pieces) :
    Replaces (matchPlaceholder? name.toList) value.toList (fillPiece known piece)
      (fillPiece (fun other => (known other).or (if other = name then some value else none))
        piece) := by
  have isName := areNames name listed
  cases piece with
  | literal text => exact replaces_of_noBrace (url.literals text member).1.2
  | placeholder inner =>
    simp only [fillPiece]
    cases found : known (nameOf inner) with
    | some held => exact replaces_of_noBrace (noBrace _ held found)
    | none =>
      by_cases named : nameOf inner = name
      · subst named
        obtain ⟨before, after, shape, beforeBlank, afterBlank⟩ := exists_trim inner
        have itself : (nameOf inner).toList = trim inner := String.toList_ofList
        rw [itself] at isName ⊢
        simpa [← shape] using replaces_inBraces value.toList isName beforeBlank afterBlank
      · have none : ¬Holds name.toList (inBraces inner) := by
          by_cases known : nameOf inner ∈ names
          · have itself : (nameOf inner).toList = trim inner := String.toList_ofList
            refine not_holds_of_name isName (itself ▸ areNames _ known) fun same => named ?_
            rw [nameOf, same, String.ofList_toList]
          · exact url.others inner member known name listed
        have shape : inBraces inner = ('{' :: '{' :: inner) ++ ['}', '}'] := rfl
        simp only [named, if_false, Option.or_none, Option.map_none, Option.getD_none]
        rw [shape] at none ⊢
        exact replaces_of_not_holds value.toList isName none

/-- Parameters put in place one after the other. -/
private theorem foldl_applyOne (url : IsUrlTemplate names pieces)
    (areNames : ∀ name ∈ names, isName name.toList = true) (entries : List (String × String)) :
    ∀ done : List (String × String), ((done ++ entries).map Prod.fst).Nodup →
      (∀ entry ∈ done ++ entries, entry.1 ∈ names ∧ '{' ∉ entry.2.toList) →
      entries.foldl applyOne (fillPieces (fun name => List.lookup name done) pieces) =
        fillPieces (fun name => List.lookup name (done ++ entries)) pieces := by
  induction entries with
  | nil =>
    intro done _ _
    rw [List.foldl_nil, List.append_nil]
  | cons entry rest ih =>
    intro done distinct clean
    obtain ⟨name, value⟩ := entry
    have listed : name ∈ names := (clean (name, value) (by simp)).1
    have fresh : List.lookup name done = none := by
      refine List.lookup_eq_none_iff.mpr fun other member => bne_iff_ne.mpr fun same => ?_
      rw [List.map_append, List.nodup_append] at distinct
      exact distinct.2.2 other.1 (List.mem_map_of_mem member) name (by simp) same.symm
    have noBrace : ∀ other held, List.lookup other done = some held → '{' ∉ held.toList := by
      intro other held found
      obtain ⟨before, after, rfl, -⟩ := List.lookup_eq_some_iff.mp found
      exact (clean (other, held) (by simp)).2
    have further : applyOne (fillPieces (fun other => List.lookup other done) pieces)
        (name, value) =
          fillPieces (fun other => List.lookup other (done ++ [(name, value)])) pieces := by
      have same : (fun other => List.lookup other (done ++ [(name, value)])) = fun other =>
          (List.lookup other done).or (if other = name then some value else none) := by
        funext other
        by_cases asked : other = name
        · simp [List.lookup_append, asked]
        · have differ : (other == name) = false := beq_eq_false_iff_ne.mpr asked
          simp [List.lookup_append, List.lookup_cons, asked, differ]
      rw [same]
      exact Replaces.flatMap fun piece member =>
        replaces_fillPiece url areNames noBrace listed fresh value member
    have regrouped : done ++ (name, value) :: rest = done ++ [(name, value)] ++ rest := by simp
    rw [regrouped] at distinct clean ⊢
    rw [List.foldl_cons, further, ih (done ++ [(name, value)]) distinct clean]

/-- Putting the parameters in place is filling the placeholders of their names. -/
theorem apply_eq (params : OrderedMap String) (url : IsUrlTemplate params.keys pieces)
    (areNames : ∀ name ∈ params.keys, isName name.toList = true)
    (noBrace : ∀ value ∈ params.values, '{' ∉ value.toList) :
    apply (String.ofList (fillPieces (fun _ => none) pieces)) params =
      String.ofList (fillPieces params.get? pieces) := by
  have clean : ∀ entry ∈ params.entries, entry.1 ∈ params.keys ∧ '{' ∉ entry.2.toList :=
    fun entry member => ⟨List.mem_map_of_mem member, noBrace _ (List.mem_map_of_mem member)⟩
  have filled := foldl_applyOne url areNames params.entries [] params.nodup clean
  rw [apply, String.toList_ofList]
  exact congrArg String.ofList filled

end Filling

end RequestChain.PathParams
