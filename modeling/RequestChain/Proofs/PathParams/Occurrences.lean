import RequestChain.Proofs.PathParams.Masking

/-! # The placeholders of a text

A placeholder has two braces at either end and none inside. So two placeholders never overlap, and
what stands in front of a placeholder is read without it: a text is cut into its placeholders and
the characters around them, and a name occurs as often as there are placeholders of it among these.
To put parameters in place all at once is to fill these placeholders and to look at nothing that has
been filled in.
-/

namespace RequestChain.PathParams

open Template Text

/-! ## Placeholders without braces inside -/

/-- Neither an opening nor a closing brace. -/
def isBraceless (c : Char) : Bool :=
  c != '{' && c != '}'

/-- The text in the double braces that a text begins with, if it has no braces inside, and the text
behind these. -/
def placeholder? : List Char → Option (List Char × List Char)
  | '{' :: '{' :: rest =>
    (dropPrefix? ['}', '}'] (rest.dropWhile isBraceless)).map (rest.takeWhile isBraceless, ·)
  | _ => none

theorem placeholder?_eq_some_iff {text inner behind : List Char} :
    placeholder? text = some (inner, behind) ↔
      text = inBraces inner ++ behind ∧ ∀ c ∈ inner, isBraceless c = true := by
  constructor
  · intro found
    fun_cases placeholder? text with
    | case1 rest =>
      rw [placeholder?] at found
      obtain ⟨left, closing, same⟩ := Option.map_eq_some_iff.mp found
      cases same
      rw [dropPrefix?_eq_some_iff] at closing
      refine ⟨?_, fun c member => List.mem_takeWhile_imp member⟩
      have whole : rest.takeWhile isBraceless ++ rest.dropWhile isBraceless = rest :=
        List.takeWhile_append_dropWhile
      rw [closing] at whole
      simpa [inBraces] using whole.symm
    | case2 text other =>
      rw [placeholder?] at found
      · cases found
      · exact other
  · rintro ⟨rfl, braceless⟩
    have closing : ¬isBraceless '}' = true := by decide
    rw [inBraces, List.cons_append, List.cons_append, List.append_assoc, placeholder?,
      List.dropWhile_append_of_pos braceless, List.takeWhile_append_of_pos braceless]
    rw [List.cons_append, List.dropWhile_cons_of_neg closing, List.takeWhile_cons_of_neg closing,
      List.append_nil]
    rfl

theorem placeholder?_append {text inner behind : List Char}
    (found : placeholder? text = some (inner, behind)) (rest : List Char) :
    placeholder? (text ++ rest) = some (inner, behind ++ rest) := by
  obtain ⟨rfl, braceless⟩ := placeholder?_eq_some_iff.mp found
  exact placeholder?_eq_some_iff.mpr ⟨List.append_assoc .., braceless⟩

private theorem placeholder?_append_opening_of_none {c : Char} {text : List Char}
    (absent : placeholder? (c :: text) = none) (rest : List Char) :
    placeholder? (c :: text ++ '{' :: '{' :: rest) = none := by
  refine Option.eq_none_iff_forall_ne_some.mpr fun ⟨inner, behind⟩ found => ?_
  obtain ⟨same, braceless⟩ := placeholder?_eq_some_iff.mp found
  have noOpening : '{' ∉ inner := fun member => absurd (braceless _ member) (by decide)
  rw [inBraces] at same
  cases text with
  | nil =>
    cases inner with
    | nil => simp at same
    | cons d inner =>
      simp only [List.cons_append, List.nil_append, List.cons.injEq] at same
      exact noOpening (by simp [← same.2.2.1])
  | cons d text =>
    simp only [List.cons_append, List.cons.injEq, List.append_assoc, List.nil_append] at same
    obtain ⟨rfl, rfl, same⟩ := same
    rcases List.append_eq_append_iff.mp same with ⟨more, rfl, ends⟩ | ⟨more, rfl, ends⟩
    · -- the braces behind would stand inside the placeholder
      cases more with
      | nil => simp at ends
      | cons e more =>
        simp only [List.cons_append, List.cons.injEq] at ends
        exact noOpening (by simp [← ends.1])
    · -- the placeholder ends in front of them
      rcases more with _ | ⟨e, _ | ⟨f, more⟩⟩
      · simp at ends
      · simp at ends
      · simp only [List.cons_append, List.cons.injEq] at ends
        obtain ⟨rfl, rfl, -⟩ := ends
        have whole : placeholder? ('{' :: '{' :: (inner ++ '}' :: '}' :: more)) =
            some (inner, more) :=
          placeholder?_eq_some_iff.mpr ⟨by simp [inBraces], braceless⟩
        rw [whole] at absent
        cases absent

/-- What stands in front of two opening braces is read without them. -/
theorem placeholder?_append_opening (c : Char) (text rest : List Char) :
    placeholder? (c :: text ++ '{' :: '{' :: rest) =
      (placeholder? (c :: text)).map fun found => (found.1, found.2 ++ '{' :: '{' :: rest) := by
  cases found : placeholder? (c :: text) with
  | none => exact placeholder?_append_opening_of_none found rest
  | some parts => exact placeholder?_append found _

/-! ## How often a name occurs -/

/-- A text begins with a placeholder of the name. -/
def begins (name : String) (text : List Char) : Bool :=
  (placeholder? text).any fun found => nameOf found.1 == name

/-- How many placeholders of a name a text holds. -/
def occurrences (name : String) : List Char → Nat
  | [] => 0
  | c :: rest => (if begins name (c :: rest) then 1 else 0) + occurrences name rest

section

variable {name : String}

theorem begins_of_placeholder? {text inner behind : List Char}
    (found : placeholder? text = some (inner, behind)) :
    begins name text = (nameOf inner == name) := by
  rw [begins, found]
  rfl

theorem begins_of_none {text : List Char} (absent : placeholder? text = none) :
    begins name text = false := by
  rw [begins, absent]
  rfl

private theorem begins_of_ne {c : Char} (notOpening : c ≠ '{') (rest : List Char) :
    begins name (c :: rest) = false := by
  apply begins_of_none
  rw [placeholder?]
  intro others same
  exact absurd (List.cons.inj same).1 notOpening

/-- Placeholders are not lost when more text follows. -/
theorem occurrences_append_le (name : String) (left right : List Char) :
    occurrences name left + occurrences name right ≤ occurrences name (left ++ right) := by
  induction left with
  | nil => simp [occurrences]
  | cons c rest ih =>
    have kept : begins name (c :: rest) = true → begins name (c :: rest ++ right) = true := by
      intro here
      cases found : placeholder? (c :: rest) with
      | none => rw [begins_of_none found] at here; cases here
      | some found' =>
        rw [begins_of_placeholder? found] at here
        rw [begins_of_placeholder? (placeholder?_append found right), here]
    rw [List.cons_append] at kept ⊢
    rw [occurrences, occurrences]
    by_cases here : begins name (c :: rest) = true
    · rw [if_pos here, if_pos (kept here)]
      omega
    · rw [if_neg here]
      omega

/-- Two opening braces divide the placeholders of a text. -/
private theorem occurrences_append_opening (text rest : List Char) :
    occurrences name (text ++ '{' :: '{' :: rest) =
      occurrences name text + occurrences name ('{' :: '{' :: rest) := by
  induction text with
  | nil => simp [occurrences]
  | cons c text ih =>
    have same : begins name (c :: (text ++ '{' :: '{' :: rest)) = begins name (c :: text) := by
      rw [← List.cons_append, begins, placeholder?_append_opening, Option.any_map]
      rfl
    rw [List.cons_append, occurrences, occurrences, ih, same, Nat.add_assoc]

private theorem occurrences_of_noOpening {text : List Char} (noOpening : '{' ∉ text)
    (rest : List Char) : occurrences name (text ++ rest) = occurrences name rest := by
  induction text with
  | nil => rfl
  | cons c text ih =>
    rw [List.mem_cons, not_or] at noOpening
    rw [List.cons_append, occurrences, begins_of_ne (Ne.symm noOpening.1), ih noOpening.2]
    simp

/-- A placeholder counts for its own name, and all others stand in front of it or behind. -/
theorem occurrences_inBraces {inner : List Char}
    (braceless : ∀ c ∈ inner, isBraceless c = true) (text rest : List Char) :
    occurrences name (text ++ (inBraces inner ++ rest)) =
      occurrences name text + ((if nameOf inner = name then 1 else 0) + occurrences name rest) := by
  have found : placeholder? (inBraces inner ++ rest) = some (inner, rest) :=
    placeholder?_eq_some_iff.mpr ⟨rfl, braceless⟩
  have noOpening : '{' ∉ inner ++ ['}', '}'] := by
    intro member
    rcases List.mem_append.mp member with inside | closing
    · exact absurd (braceless _ inside) (by decide)
    · exact absurd closing (by decide)
  have second : begins name ('{' :: (inner ++ ['}', '}'] ++ rest)) = false := by
    apply begins_of_none
    rw [placeholder?]
    intro others same
    cases inner with
    | nil => simp at same
    | cons d inner =>
      simp only [List.cons_append, List.cons.injEq] at same
      exact noOpening (by simp [same.2.1])
  rw [inBraces, List.cons_append, List.cons_append] at found ⊢
  rw [occurrences_append_opening]
  rw [occurrences, occurrences, second, begins_of_placeholder? found,
    occurrences_of_noOpening noOpening]
  simp

end

/-! ## A single pass -/

/-- A text cut into its placeholders without braces inside and the characters around them. -/
def cut : List Char → List Piece
  | [] => []
  | c :: rest =>
    match _found : placeholder? (c :: rest) with
    | some (inner, behind) => .placeholder inner :: cut behind
    | none => .literal [c] :: cut rest
  termination_by text => text.length
  decreasing_by
    · have whole := congrArg List.length (placeholder?_eq_some_iff.mp _found).1
      simp only [inBraces, List.length_append, List.length_cons] at whole ⊢
      omega
    · simp

/-- All parameters in place of their placeholders in a single pass over the text. -/
def substitute (params : List (String × String)) (text : List Char) : List Char :=
  fillPieces (fun name => params.lookup name) (cut text)

/-- A placeholder has no braces inside. -/
def IsSimple : Piece → Prop
  | .literal _ => True
  | .placeholder inner => ∀ c ∈ inner, isBraceless c = true

/-- A placeholder of the name. -/
def isNamed (name : String) : Piece → Bool
  | .literal _ => false
  | .placeholder inner => nameOf inner == name

theorem cut_of_placeholder? {text inner behind : List Char}
    (found : placeholder? text = some (inner, behind)) :
    cut text = .placeholder inner :: cut behind := by
  cases text with
  | nil => cases found
  | cons c rest =>
    rw [cut]
    split
    · rename_i found'
      cases found.symm.trans found'
      rfl
    · rename_i absent
      cases found.symm.trans absent

theorem cut_of_none {c : Char} {rest : List Char} (absent : placeholder? (c :: rest) = none) :
    cut (c :: rest) = .literal [c] :: cut rest := by
  rw [cut]
  split
  · rename_i found
    cases absent.symm.trans found
  · rfl

/-- A text is a row of characters and placeholders. -/
theorem cut_induction {P : List Char → Prop} (empty : P [])
    (char : ∀ c rest, placeholder? (c :: rest) = none → P rest → P (c :: rest))
    (placeholder : ∀ inner behind, (∀ c ∈ inner, isBraceless c = true) → P behind →
      P (inBraces inner ++ behind)) : ∀ text, P text
  | [] => empty
  | c :: rest => by
    cases found : placeholder? (c :: rest) with
    | none => exact char c rest found (cut_induction empty char placeholder rest)
    | some parts =>
      obtain ⟨inner, behind⟩ := parts
      obtain ⟨shape, braceless⟩ := placeholder?_eq_some_iff.mp found
      have shorter : behind.length < (c :: rest).length := by
        rw [shape]
        simp only [inBraces, List.length_append, List.length_cons]
        omega
      rw [shape]
      exact placeholder inner behind braceless (cut_induction empty char placeholder behind)
  termination_by text => text.length
  decreasing_by
    · exact Nat.lt_succ_self _
    · exact shorter

theorem cut_inBraces {inner : List Char} (braceless : ∀ c ∈ inner, isBraceless c = true)
    (behind : List Char) : cut (inBraces inner ++ behind) = .placeholder inner :: cut behind :=
  cut_of_placeholder? (placeholder?_eq_some_iff.mpr ⟨rfl, braceless⟩)

theorem isSimple_of_mem_cut (text : List Char) : ∀ piece ∈ cut text, IsSimple piece := by
  induction text using cut_induction with
  | empty => rw [cut]; exact nofun
  | char c rest absent others =>
    rw [cut_of_none absent]
    exact List.forall_mem_cons.mpr ⟨trivial, others⟩
  | placeholder inner behind braceless others =>
    rw [cut_inBraces braceless]
    exact List.forall_mem_cons.mpr ⟨braceless, others⟩

/-- Without parameters the text stays. -/
theorem substitute_nil (text : List Char) : substitute [] text = text := by
  rw [substitute, fillPieces]
  induction text using cut_induction with
  | empty => rw [cut]; rfl
  | char c rest absent others =>
    rw [cut_of_none absent, List.flatMap_cons, others]
    rfl
  | placeholder inner behind braceless others =>
    rw [cut_inBraces braceless, List.flatMap_cons, others]
    rfl

/-- The placeholders of a name are found in a single pass. -/
theorem countP_cut (name : String) (text : List Char) :
    (cut text).countP (isNamed name) = occurrences name text := by
  induction text using cut_induction with
  | empty => rw [cut]; rfl
  | char c rest absent others =>
    rw [cut_of_none absent, List.countP_cons, others, occurrences, begins_of_none absent]
    simp [isNamed]
  | placeholder inner behind braceless others =>
    have counted := @occurrences_inBraces name inner braceless [] behind
    rw [List.nil_append, occurrences] at counted
    rw [cut_inBraces braceless, List.countP_cons, others, counted]
    simp [isNamed]
    omega

end RequestChain.PathParams
