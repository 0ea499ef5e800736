import RequestChain.Proofs.PathParams.Occurrences

/-! # Parameters one after the other, or all at once

Each parameter takes the place of its placeholders in what the parameters before it have left, so
that it also takes the place of placeholders which their values have brought along, whole or in
parts that meet. As long as no value brings a placeholder of a parameter that is still to come,
this is the same as a single pass over the template; and if what a single pass gives holds no
placeholder of a parameter any more, the order of the parameters does not matter.
-/

namespace RequestChain.PathParams

open Template Text

/-! ## One parameter -/

/-- A name that can stand in braces: it has none itself, and no blanks. -/
def IsParamName (name : String) : Prop :=
  ∀ c ∈ name.toList, isBraceless c = true ∧ isBlank c = false

instance (name : String) : Decidable (IsParamName name) :=
  decidable_of_iff ((name.toList.all fun c => isBraceless c && !isBlank c) = true)
    (by simp [IsParamName])

section

variable {name : String}

private theorem braceless_of_isBlank {c : Char} (blank : isBlank c = true) :
    isBraceless c = true := by
  rw [isBraceless, Bool.and_eq_true, bne_iff_ne, bne_iff_ne]
  constructor <;> rintro rfl <;> exact absurd blank (by decide)

private theorem braceless_around (isParam : IsParamName name) {before after : List Char}
    (beforeBlank : ∀ c ∈ before, isBlank c = true) (afterBlank : ∀ c ∈ after, isBlank c = true) :
    ∀ c ∈ before ++ name.toList ++ after, isBraceless c = true := by
  simp only [List.mem_append]
  rintro c ((inBefore | inName) | inAfter)
  · exact braceless_of_isBlank (beforeBlank c inBefore)
  · exact (isParam c inName).1
  · exact braceless_of_isBlank (afterBlank c inAfter)

/-- The name that stands between blanks, be it empty. -/
private theorem nameOf_around (isParam : IsParamName name) {before after : List Char}
    (beforeBlank : ∀ c ∈ before, isBlank c = true) (afterBlank : ∀ c ∈ after, isBlank c = true) :
    nameOf (before ++ name.toList ++ after) = name := by
  rw [nameOf]
  by_cases empty : name.toList = []
  · have blank : trim (before ++ name.toList ++ after) = [] := by
      rw [trim_eq_nil_iff, empty, List.append_nil, List.forall_mem_append]
      exact ⟨beforeBlank, afterBlank⟩
    rw [blank, ← empty, String.ofList_toList]
  · rw [trim_blanks empty (fun c head => (isParam c (List.mem_of_head? head)).2)
      (fun c last => (isParam c (List.mem_of_getLast? last)).2) beforeBlank afterBlank,
      String.ofList_toList]

/-- A parameter matches where its name begins. -/
theorem matchPlaceholder?_eq (isParam : IsParamName name) (text : List Char) :
    matchPlaceholder? name.toList text = (placeholder? text).bind fun found =>
      if nameOf found.1 = name then some found.2 else none := by
  ext behind
  rw [Option.bind_eq_some_iff]
  constructor
  · intro found
    obtain ⟨before, after, beforeBlank, afterBlank, rfl⟩ := exists_of_matchPlaceholder? found
    refine ⟨(before ++ name.toList ++ after, behind), ?_, ?_⟩
    · exact placeholder?_eq_some_iff.mpr ⟨rfl, braceless_around isParam beforeBlank afterBlank⟩
    · rw [if_pos (nameOf_around isParam beforeBlank afterBlank)]
  · rintro ⟨⟨inner, left⟩, isFound, named⟩
    obtain ⟨isName, same⟩ := Option.ite_none_right_eq_some.mp named
    cases same
    obtain ⟨rfl, -⟩ := placeholder?_eq_some_iff.mp isFound
    obtain ⟨before, after, shape, beforeBlank, afterBlank⟩ := exists_trim inner
    have itself : trim inner = name.toList := by
      rw [← isName, nameOf, String.toList_ofList]
    rw [shape, itself]
    exact matchPlaceholder?_inBraces (fun c head => (isParam c (List.mem_of_head? head)).2)
      beforeBlank afterBlank _

private theorem matchPlaceholder?_append_opening (isParam : IsParamName name) (c : Char)
    (text rest : List Char) :
    matchPlaceholder? name.toList (c :: text ++ '{' :: '{' :: rest) =
      (matchPlaceholder? name.toList (c :: text)).map (· ++ '{' :: '{' :: rest) := by
  rw [matchPlaceholder?_eq isParam, matchPlaceholder?_eq isParam, placeholder?_append_opening]
  cases placeholder? (c :: text) with
  | none => rfl
  | some found =>
    rw [Option.map_some, Option.bind_some, Option.bind_some]
    split <;> rfl

private theorem length_lt_of_matchPlaceholder? {text behind : List Char}
    (matched : matchPlaceholder? name.toList text = some behind) :
    behind.length < text.length := by
  obtain ⟨before, after, -, -, rfl⟩ := exists_of_matchPlaceholder? matched
  simp only [inBraces, List.length_append, List.length_cons]
  omega

/-- A placeholder of the name gives way to the value, and what is around it is replaced on its
own. -/
private theorem applyOne_inBraces (value : String) {inner : List Char}
    (isParam : IsParamName (nameOf inner)) (braceless : ∀ c ∈ inner, isBraceless c = true)
    (rest : List Char) : ∀ text : List Char,
    applyOne (text ++ (inBraces inner ++ rest)) (nameOf inner, value) =
      applyOne text (nameOf inner, value) ++ (value.toList ++
        applyOne rest (nameOf inner, value))
  | [] => by
    have matched : matchPlaceholder? (nameOf inner).toList (inBraces inner ++ rest) =
        some rest := by
      have found : placeholder? (inBraces inner ++ rest) = some (inner, rest) :=
        placeholder?_eq_some_iff.mpr ⟨rfl, braceless⟩
      rw [matchPlaceholder?_eq isParam, found, Option.bind_some, if_pos rfl]
    have empty : applyOne [] (nameOf inner, value) = [] := by rw [applyOne, replaceMatches]
    rw [empty, List.nil_append, List.nil_append, applyOne,
      replaceMatches_of_some matched (length_lt_of_matchPlaceholder? matched), applyOne]
  | c :: text => by
    have appended := matchPlaceholder?_append_opening isParam c text (inner ++ ['}', '}'] ++ rest)
    have opening : inBraces inner ++ rest = '{' :: '{' :: (inner ++ ['}', '}'] ++ rest) := rfl
    rw [← opening] at appended
    cases matched : matchPlaceholder? (nameOf inner).toList (c :: text) with
    | none =>
      rw [matched, Option.map_none] at appended
      have others := applyOne_inBraces value isParam braceless rest text
      rw [applyOne, applyOne] at others ⊢
      rw [List.cons_append] at appended ⊢
      rw [replaceMatches_of_none appended, others, replaceMatches_of_none matched,
        List.cons_append]
    | some behind =>
      rw [matched, Option.map_some] at appended
      have shorter := length_lt_of_matchPlaceholder? matched
      have others := applyOne_inBraces value isParam braceless rest behind
      rw [applyOne, applyOne] at others ⊢
      rw [replaceMatches_of_some appended (length_lt_of_matchPlaceholder? appended), others,
        replaceMatches_of_some matched shorter, List.append_assoc]
  termination_by text => text.length
  decreasing_by
    · exact Nat.lt_succ_self _
    · exact shorter

/-- Where the name does not occur, nothing is replaced. -/
private theorem applyOne_of_no_occurrence (isParam : IsParamName name) (value : String)
    {text : List Char} (nowhere : occurrences name text = 0) :
    applyOne text (name, value) = text := by
  induction text with
  | nil => simp [applyOne, replaceMatches]
  | cons c rest ih =>
    rw [occurrences, Nat.add_eq_zero_iff] at nowhere
    have notHere : begins name (c :: rest) = false := by
      by_contra here
      simp [here] at nowhere
    have unmatched : matchPlaceholder? name.toList (c :: rest) = none := by
      rw [matchPlaceholder?_eq isParam]
      cases found : placeholder? (c :: rest) with
      | none => rfl
      | some found' =>
        rw [begins_of_placeholder? found, beq_eq_false_iff_ne] at notHere
        rw [Option.bind_some, if_neg notHere]
    have others := ih nowhere.2
    rw [applyOne] at others ⊢
    rw [replaceMatches_of_none unmatched, others]

end

/-! ## Further parameters -/

section

variable {name : String} {known : String → Option String} {pieces : List Piece}

private theorem fillPieces_cons (piece : Piece) :
    fillPieces known (piece :: pieces) = fillPiece known piece ++ fillPieces known pieces :=
  List.flatMap_cons

private theorem fillPiece_of_unknown {inner : List Char} (unknown : known (nameOf inner) = none) :
    fillPiece known (.placeholder inner) = inBraces inner := by
  rw [fillPiece, unknown]
  rfl

/-- A name that has no value still occurs where it did, whatever other values bring. -/
private theorem countP_le_occurrences (fresh : known name = none)
    (simple : ∀ piece ∈ pieces, IsSimple piece) : ∀ pending : List Char,
    pieces.countP (isNamed name) ≤ occurrences name (pending ++ fillPieces known pieces) := by
  induction pieces with
  | nil => exact fun _ => Nat.zero_le _
  | cons piece rest ih =>
    obtain ⟨first, others⟩ := List.forall_mem_cons.mp simple
    intro pending
    rw [List.countP_cons, fillPieces_cons]
    by_cases named : isNamed name piece = true
    · cases piece with
      | literal text => cases named
      | placeholder inner =>
        have isName : nameOf inner = name := beq_iff_eq.mp named
        have behind := ih others []
        rw [fillPiece_of_unknown (isName ▸ fresh), occurrences_inBraces first, if_pos isName,
          if_pos named]
        rw [List.nil_append] at behind
        omega
    · rw [if_neg named, ← List.append_assoc]
      exact ih others (pending ++ fillPiece known piece)

/-- A further parameter takes the place of its placeholders and of nothing else, if its name does
not occur in any other place. -/
private theorem applyOne_fillPieces (isParam : IsParamName name) (fresh : known name = none)
    {value : String} {further : String → Option String} (itself : further name = some value)
    (others : ∀ other, other ≠ name → further other = known other)
    (simple : ∀ piece ∈ pieces, IsSimple piece) : ∀ pending : List Char,
    occurrences name (pending ++ fillPieces known pieces) = pieces.countP (isNamed name) →
      applyOne (pending ++ fillPieces known pieces) (name, value) =
        pending ++ fillPieces further pieces := by
  induction pieces with
  | nil =>
    intro pending counted
    exact applyOne_of_no_occurrence isParam value counted
  | cons piece rest ih =>
    obtain ⟨first, behind⟩ := List.forall_mem_cons.mp simple
    intro pending counted
    rw [List.countP_cons] at counted
    rw [fillPieces_cons] at counted ⊢
    rw [fillPieces_cons]
    by_cases named : isNamed name piece = true
    · cases piece with
      | literal text => cases named
      | placeholder inner =>
        obtain rfl : nameOf inner = name := beq_iff_eq.mp named
        rw [fillPiece_of_unknown fresh] at counted ⊢
        rw [occurrences_inBraces first, if_pos rfl, if_pos named] at counted
        -- what is pending holds no placeholder of the name, and what follows no further one
        have enough := countP_le_occurrences fresh behind []
        rw [List.nil_append] at enough
        have here := applyOne_of_no_occurrence isParam value
          (show occurrences (nameOf inner) pending = 0 by omega)
        have later := ih behind [] (by rw [List.nil_append]; omega)
        rw [List.nil_append, List.nil_append] at later
        rw [applyOne_inBraces value isParam first, here, later, fillPiece, itself]
        rfl
    · have same : fillPiece further piece = fillPiece known piece := by
        cases piece with
        | literal text => rfl
        | placeholder inner =>
          have other : nameOf inner ≠ name := fun isName => named (beq_iff_eq.mpr isName)
          rw [fillPiece, fillPiece, others _ other]
      rw [if_neg named, Nat.add_zero, ← List.append_assoc] at counted
      rw [same, ← List.append_assoc, ← List.append_assoc]
      exact ih behind _ counted

/-- The values of further names may bring placeholders and do not take any away, apart from those
that they stand in for. -/
private theorem occurrences_fillPieces_le (name : String) {further : String → Option String}
    (stays : ∀ other value, known other = some value → further other = some value)
    (simple : ∀ piece ∈ pieces, IsSimple piece) : ∀ pending : List Char,
    occurrences name (pending ++ fillPieces known pieces) ≤
      occurrences name (pending ++ fillPieces further pieces) +
        pieces.countP (isNamed name) := by
  induction pieces with
  | nil => exact fun _ => Nat.le_refl _
  | cons piece rest ih =>
    obtain ⟨first, behind⟩ := List.forall_mem_cons.mp simple
    intro pending
    rw [List.countP_cons, fillPieces_cons, fillPieces_cons]
    by_cases same : fillPiece further piece = fillPiece known piece
    · have later := ih behind (pending ++ fillPiece known piece)
      rw [List.append_assoc, List.append_assoc] at later
      rw [same]
      omega
    · cases piece with
      | literal text => exact absurd rfl same
      | placeholder inner =>
        have unknown : known (nameOf inner) = none := by
          by_contra isKnown
          obtain ⟨value, isValue⟩ := Option.ne_none_iff_exists'.mp isKnown
          refine same ?_
          rw [fillPiece, fillPiece, isValue, stays _ _ isValue]
        have later := ih behind []
        rw [List.nil_append, List.nil_append] at later
        have split := occurrences_append_le name pending
          (fillPiece further (.placeholder inner) ++ fillPieces further rest)
        have split' := occurrences_append_le name
          (fillPiece further (.placeholder inner)) (fillPieces further rest)
        rw [fillPiece_of_unknown unknown, occurrences_inBraces first, isNamed]
        simp only [beq_iff_eq]
        omega

end

/-! ## All parameters -/

/-- One parameter more, in place of its placeholders in what others have left. -/
theorem applyOne_substitute {text : List Char} {params : List (String × String)} {name : String}
    (value : String) (isParam : IsParamName name) (fresh : name ∉ params.map Prod.fst)
    (noFurther : occurrences name (substitute params text) = occurrences name text) :
    applyOne (substitute params text) (name, value) =
      substitute (params ++ [(name, value)]) text := by
  have unknown := lookup_eq_none_of_fresh fresh
  refine applyOne_fillPieces isParam unknown ?_ ?_ (isSimple_of_mem_cut text) []
    (noFurther.trans (countP_cut name text).symm)
  · simp [List.lookup_append, unknown]
  · intro other differ
    simp [List.lookup_append, List.lookup_cons, beq_eq_false_iff_ne.mpr differ]

/-- Parameters one after the other, if none of those before it has brought a placeholder of the next
one. -/
private theorem foldl_applyOne_substitute (text : List Char) (entries : List (String × String)) :
    ∀ done : List (String × String), ((done ++ entries).map Prod.fst).Nodup →
      (∀ entry ∈ entries, IsParamName entry.1) →
      (∀ before name value after, entries = before ++ (name, value) :: after →
        occurrences name (substitute (done ++ before) text) = occurrences name text) →
      entries.foldl applyOne (substitute done text) = substitute (done ++ entries) text := by
  induction entries with
  | nil =>
    intro done _ _ _
    rw [List.foldl_nil, List.append_nil]
  | cons entry rest ih =>
    intro done distinct areParams noFurther
    obtain ⟨name, value⟩ := entry
    obtain ⟨isParam, areParams⟩ := List.forall_mem_cons.mp areParams
    have fresh : name ∉ done.map Prod.fst := by
      intro member
      rw [List.map_append, List.nodup_append] at distinct
      exact distinct.2.2 name member name (by simp) rfl
    have here := noFurther [] name value rest rfl
    rw [List.append_nil] at here
    have regrouped : done ++ (name, value) :: rest = done ++ [(name, value)] ++ rest := by simp
    rw [regrouped] at distinct ⊢
    rw [List.foldl_cons, applyOne_substitute value isParam fresh here]
    refine ih _ distinct areParams fun before name' value' after shape => ?_
    have later := noFurther ((name, value) :: before) name' value' after (by rw [shape]; rfl)
    rw [← later, List.append_assoc]
    rfl

theorem apply_of_noFurther {params : OrderedMap String}
    (areParams : ∀ name ∈ params.keys, IsParamName name) {template : String}
    (noFurther : ∀ before name value after, params.entries = before ++ (name, value) :: after →
      occurrences name (substitute before template.toList) = occurrences name template.toList) :
    apply template params = String.ofList (substitute params.entries template.toList) := by
  have filled := foldl_applyOne_substitute template.toList params.entries [] params.nodup
    (fun entry member => areParams entry.1 (List.mem_map_of_mem member)) noFurther
  rw [substitute_nil, List.nil_append] at filled
  rw [apply, filled]

/-- What a single pass gives does not depend on the order of the parameters. -/
theorem substitute_perm {params others : OrderedMap String}
    (same : others.entries.Perm params.entries) (text : List Char) :
    substitute others.entries text = substitute params.entries text := by
  have found {left right : OrderedMap String} (same : left.entries.Perm right.entries)
      {name value : String} (isValue : left.entries.lookup name = some value) :
      right.entries.lookup name = some value := by
    obtain ⟨before, after, shape, -⟩ := List.lookup_eq_some_iff.mp isValue
    have member : (name, value) ∈ left.entries := by
      rw [shape]
      simp
    exact right.get?_of_mem (same.mem_iff.mp member)
  have lookups : (fun name => others.entries.lookup name) =
      fun name => params.entries.lookup name :=
    funext fun name => Option.ext fun value => ⟨found same, found same.symm⟩
  rw [substitute, substitute, lookups]

/-- A parameter that is to come occurs as often as in the template, if it does not occur in the end:
what is put in place later hides no placeholder. -/
private theorem occurrences_eq_of_nowhere {params : OrderedMap String} {text : List Char}
    {before after : List (String × String)} {name value : String}
    (shape : params.entries = before ++ (name, value) :: after)
    (nowhere : occurrences name (substitute params.entries text) = 0) :
    occurrences name (substitute before text) = occurrences name text := by
  have unknown : before.lookup name = none := by
    have distinct := params.nodup
    rw [shape, List.map_append, List.nodup_append] at distinct
    exact lookup_eq_none_of_fresh fun member => distinct.2.2 name member name (by simp) rfl
  have stays (other held : String) (found : before.lookup other = some held) :
      params.entries.lookup other = some held := by
    rw [shape, List.lookup_append, found, Option.some_or]
  have atLeast : (cut text).countP (isNamed name) ≤ occurrences name (substitute before text) :=
    countP_le_occurrences unknown (isSimple_of_mem_cut text) []
  have atMost : occurrences name (substitute before text) ≤
      occurrences name (substitute params.entries text) + (cut text).countP (isNamed name) :=
    occurrences_fillPieces_le name stays (isSimple_of_mem_cut text) []
  rw [countP_cut] at atLeast atMost
  omega

/-- Parameters are put in place one after the other, each of them in a single pass over what is
there. This is a single pass over the template if what the parameters before it have brought holds
no placeholder of a parameter; and it is so in any order if a single pass leaves no placeholder of
a parameter. -/
theorem apply_simultaneous {params : OrderedMap String}
    (areParams : ∀ name ∈ params.keys, IsParamName name) (template : String) :
    apply template params = String.ofList
      (params.entries.foldl (fun text param => substitute [param] text) template.toList) ∧
    ((∀ before name value after, params.entries = before ++ (name, value) :: after →
        occurrences name (substitute before template.toList) =
          occurrences name template.toList) →
      apply template params = String.ofList (substitute params.entries template.toList)) ∧
    ((∀ name ∈ params.keys, occurrences name (substitute params.entries template.toList) = 0) →
      ∀ others : OrderedMap String, others.entries.Perm params.entries →
        apply template others = String.ofList (substitute params.entries template.toList)) := by
  refine ⟨?inTurn, apply_of_noFurther areParams, ?inAnyOrder⟩
  case inTurn =>
    rw [apply]
    refine congrArg String.ofList (List.foldl_ext _ _ _ fun text param member => ?_)
    have isParam := areParams param.1 (List.mem_map_of_mem member)
    have alone : applyOne (substitute [] text) param = substitute [param] text :=
      applyOne_substitute param.2 isParam List.not_mem_nil (by rw [substitute_nil])
    rwa [substitute_nil] at alone
  case inAnyOrder =>
    intro nowhere others same
    have sameNames : others.keys.Perm params.keys := same.map Prod.fst
    rw [← substitute_perm same] at nowhere ⊢
    refine apply_of_noFurther (fun name member => areParams name (sameNames.mem_iff.mp member)) ?_
    intro before name value after shape
    refine occurrences_eq_of_nowhere shape (nowhere name (sameNames.mem_iff.mp ?_))
    rw [OrderedMap.keys, shape]
    simp

/-- Two parameters in either order, with the placeholder of an unknown name in a value. -/
theorem apply_simultaneous_reversed :
    let params : OrderedMap String := .ofList [("a", "\x7b\x7bx\x7d\x7d"), ("b", "$1")]
    let reversed : OrderedMap String := .ofList [("b", "$1"), ("a", "\x7b\x7bx\x7d\x7d")]
    let template := "/\x7b\x7b a \x7d\x7d/\x7b\x7bb\x7d\x7d"
    (∀ name ∈ params.keys, IsParamName name) ∧ reversed.entries.Perm params.entries ∧
      apply template reversed = String.ofList (substitute params.entries template.toList) ∧
      apply template reversed = "/\x7b\x7bx\x7d\x7d/$1" := by
  intro params reversed template
  have areParams : ∀ name ∈ params.keys, IsParamName name := by decide
  have same : reversed.entries.Perm params.entries := .swap _ _ _
  have nowhere : ∀ name ∈ params.keys,
      occurrences name (substitute params.entries template.toList) = 0 := by decide +kernel
  exact ⟨areParams, same, (apply_simultaneous areParams template).2.2 nowhere reversed same,
    by decide +kernel⟩

/-- A value that holds the placeholder of a parameter which is still to come is replaced in its
turn, and in the other order it is not. -/
theorem apply_not_simultaneous :
    let params : OrderedMap String := .ofList [("a", "\x7b\x7bb\x7d\x7d"), ("b", "X")]
    let reversed : OrderedMap String := .ofList [("b", "X"), ("a", "\x7b\x7bb\x7d\x7d")]
    let template := "\x7b\x7ba\x7d\x7d"
    (∀ name ∈ params.keys, IsParamName name) ∧
      String.ofList (substitute params.entries template.toList) = "\x7b\x7bb\x7d\x7d" ∧
      apply template params = "X" ∧ apply template reversed = "\x7b\x7bb\x7d\x7d" := by
  decide +kernel

end RequestChain.PathParams
