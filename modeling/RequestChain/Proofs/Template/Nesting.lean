import Mathlib.Data.List.Lemmas
import RequestChain.Template.Parser

/-! # The bound on nesting does not matter

The arguments of a call stand in texts shorter than the placeholder around them, and the reader of a
reference asks for nothing else. So two readers that agree on shorter texts read a reference alike,
and any bound above the length of a text gives its template.
-/

namespace RequestChain.Template

open Text

/-! ## Lengths -/

theorem dropPrefix?_eq_some_iff {start text rest : List Char} :
    dropPrefix? start text = some rest ↔ text = start ++ rest := by
  induction start generalizing text with
  | nil => simp [dropPrefix?]
  | cons c others ih =>
    cases text with
    | nil => simp [dropPrefix?]
    | cons d behind =>
      by_cases same : c = d
      · subst same
        simp [dropPrefix?, ih]
      · simp [dropPrefix?, same, Ne.symm same]

theorem dropLast?_eq_some_iff {last : Char} {text rest : List Char} :
    dropLast? last text = some rest ↔ text = rest ++ [last] := by
  constructor
  · intro found
    simp only [dropLast?] at found
    split at found
    · rename_i ends
      cases found
      exact (List.dropLast_append_getLast? last ends).symm
    · cases found
  · rintro rfl
    simp [dropLast?]

private theorem length_dropLast? {last : Char} {text rest : List Char}
    (found : dropLast? last text = some rest) : rest.length < text.length := by
  rw [dropLast?_eq_some_iff.mp found, List.length_append, List.length_singleton]
  omega

private theorem length_trim_le (text : List Char) : (trim text).length ≤ text.length := by
  have start : (trim text).length ≤ (trimEnd text).length :=
    (List.dropWhile_sublist isBlank).length_le
  have stop : (trimEnd text).length ≤ text.length := by
    simpa [trimEnd, trimRight] using
      (List.dropWhile_sublist (l := text.reverse) isBlank).length_le
  exact start.trans stop

private theorem length_splitOptional_le (inner : List Char) :
    (splitOptional inner).1.length ≤ inner.length := by
  have trimmed := length_trim_le inner
  simp only [splitOptional]
  split
  · rename_i body found
    have shorter := length_dropLast? found
    have stop : (trimEnd body).length ≤ body.length := by
      simpa [trimEnd, trimRight] using
        (List.dropWhile_sublist (l := body.reverse) isBlank).length_le
    exact (stop.trans shorter.le).trans trimmed
  · exact trimmed

private theorem length_unescape_le (text : List Char) : (unescape text).length ≤ text.length := by
  fun_induction unescape text <;> simp only [List.length_cons, List.length_nil] <;> omega

private theorem length_unquote? {text content : List Char} (found : unquote? text = some content) :
    content.length < text.length := by
  cases text with
  | nil => cases found
  | cons first rest =>
    simp only [unquote?] at found
    split at found
    · exact (length_dropLast? found).trans (Nat.lt_succ_self _)
    · cases found

private theorem length_le_of_mem_consFirst {c : Char} {parts : List (List Char)} {bound : Nat}
    (within : ∀ part ∈ parts, part.length ≤ bound) :
    ∀ part ∈ consFirst c parts, part.length ≤ bound + 1 := by
  cases parts with
  | nil => simp [consFirst]
  | cons first rest =>
    simp only [consFirst, List.forall_mem_cons] at within ⊢
    exact ⟨Nat.succ_le_succ within.1,
      fun part member => (within.2 part member).trans (Nat.le_succ _)⟩

/-- An argument is no longer than the text between the parentheses. -/
private theorem length_le_of_mem_splitArguments {braces parentheses : Nat} {quote : Option Char}
    {source : List Char} {parts : List (List Char)}
    (split : splitArguments braces parentheses quote source = some parts) :
    ∀ part ∈ parts, part.length ≤ source.length := by
  have one {c : Char} {rest : List Char} {rest? : Option (List (List Char))}
      {parts : List (List Char)} (split : rest?.map (consFirst c) = some parts)
      (within : ∀ {parts}, rest? = some parts → ∀ part ∈ parts, part.length ≤ rest.length) :
      ∀ part ∈ parts, part.length ≤ (c :: rest).length := by
    obtain ⟨others, found, rfl⟩ := Option.map_eq_some_iff.mp split
    exact length_le_of_mem_consFirst (within found)
  have two {c d : Char} {rest : List Char} {rest? : Option (List (List Char))}
      {parts : List (List Char)}
      (split : (rest?.map fun parts => consFirst c (consFirst d parts)) = some parts)
      (within : ∀ {parts}, rest? = some parts → ∀ part ∈ parts, part.length ≤ rest.length) :
      ∀ part ∈ parts, part.length ≤ (c :: d :: rest).length := by
    obtain ⟨others, found, rfl⟩ := Option.map_eq_some_iff.mp split
    exact length_le_of_mem_consFirst (length_le_of_mem_consFirst (within found))
  fun_induction splitArguments braces parentheses quote source generalizing parts with
  | case1 =>
    cases split
    simp
  | case2 => cases split
  | case3 => cases split
  | case4 _ _ _ _ _ ih => exact two split ih
  | case5 _ _ _ _ _ _ ih => exact one split ih
  | case6 _ _ _ _ _ ih => exact one split ih
  | case7 _ _ _ _ _ ih => exact two split ih
  | case8 =>
    rename_i ih
    exact one split (ih _ _)
  | case9 _ _ _ _ _ _ ih => exact two split ih
  | case10 =>
    rename_i ih
    exact one split (ih _ _)
  | case11 =>
    rename_i ih
    exact one split (ih _ _)
  | case12 braces parentheses rest outside _ _ ih =>
    obtain ⟨others, found, rfl⟩ := Option.map_eq_some_iff.mp split
    refine List.forall_mem_cons.mpr ⟨Nat.zero_le _, fun part member => ?_⟩
    exact (ih found part member).trans (Nat.le_succ _)
  | case13 =>
    rename_i ih
    exact one split (ih _ _)
  | case14 =>
    rename_i ih
    exact one split (ih _ _)

/-! ## Readers of references -/

section Readers

variable {parse parse' : List Char → Parsed Template}

private theorem mapM_congr {α β : Type} {f g : α → Parsed β} {items : List α}
    (same : ∀ item ∈ items, f item = g item) : items.mapM f = items.mapM g := by
  induction items with
  | nil => rfl
  | cons item rest ih =>
    obtain ⟨first, others⟩ := List.forall_mem_cons.mp same
    rw [List.mapM_cons, List.mapM_cons, first, ih others]

/-- Items that are read one by one have all been read. -/
theorem mapM_cons_eq_ok_iff {α β : Type} {f : α → Parsed β} {item : α} {items : List α}
    {results : List β} :
    (item :: items).mapM f = .ok results ↔
      ∃ first others, f item = .ok first ∧ items.mapM f = .ok others ∧
        first :: others = results := by
  rw [List.mapM_cons]
  cases f item with
  | error error => exact iff_of_false nofun nofun
  | ok first =>
    cases items.mapM f with
    | error error => exact iff_of_false nofun nofun
    | ok others =>
      constructor
      · intro returned
        exact ⟨first, others, rfl, rfl, Except.ok.inj returned⟩
      · rintro ⟨_, _, ⟨⟩, ⟨⟩, rfl⟩
        rfl

/-- A reading that returned has returned its first part, and went on from there. -/
theorem exists_of_bind_eq_ok {α β : Type} {parsed : Parsed α} {next : α → Parsed β} {result : β}
    (read : parsed >>= next = .ok result) :
    ∃ value, parsed = .ok value ∧ next value = .ok result := by
  cases parsed with
  | error error => cases read
  | ok value => exact ⟨value, rfl, read⟩

section Results

variable {α β : Type} {f : α → Parsed β} {items : List α} {results : List β}

/-- What holds of the result of each item holds of all results. -/
theorem forall_of_mapM {P : β → Prop} (each : ∀ item ∈ items, ∀ result, f item = .ok result → P result)
    (read : items.mapM f = .ok results) : ∀ result ∈ results, P result := by
  induction items generalizing results with
  | nil =>
    rw [List.mapM_nil] at read
    cases read
    exact fun _ member => absurd member List.not_mem_nil
  | cons item rest ih =>
    obtain ⟨first, others, isFirst, areOthers, rfl⟩ := mapM_cons_eq_ok_iff.mp read
    obtain ⟨head, tail⟩ := List.forall_mem_cons.mp each
    exact List.forall_mem_cons.mpr ⟨head first isFirst, ih tail areOthers⟩

/-- How neighbours are related decides how the results of neighbours are. -/
theorem isChain_of_mapM {R : α → α → Prop} {S : β → β → Prop}
    (related : ∀ {left right first second}, R left right → f left = .ok first →
      f right = .ok second → S first second)
    (chain : items.IsChain R) (read : items.mapM f = .ok results) : results.IsChain S := by
  induction chain generalizing results with
  | nil =>
    rw [List.mapM_nil] at read
    cases read
    exact .nil
  | singleton item =>
    obtain ⟨result, _, -, last, rfl⟩ := mapM_cons_eq_ok_iff.mp read
    rw [List.mapM_nil] at last
    cases last
    exact .singleton result
  | cons_cons neighbours _ ih =>
    obtain ⟨first, _, isFirst, rest, rfl⟩ := mapM_cons_eq_ok_iff.mp read
    have others := ih rest
    obtain ⟨second, _, isSecond, -, rfl⟩ := mapM_cons_eq_ok_iff.mp rest
    exact .cons_cons (related neighbours isFirst isSecond) others

end Results

private theorem parseArgument_congr (body : List Char) {argument : List Char}
    (same : ∀ text, text.length ≤ argument.length → parse text = parse' text) :
    parseArgument parse body argument = parseArgument parse' body argument := by
  simp only [parseArgument]
  cases unquoted : unquote? argument with
  | none => simp only [same argument le_rfl]
  | some content =>
    have shorter := (length_unescape_le content).trans (length_unquote? unquoted).le
    simp only [same _ shorter]

private theorem parseArguments_congr (body : List Char) {source : List Char}
    (same : ∀ text, text.length ≤ source.length → parse text = parse' text) :
    parseArguments parse body source = parseArguments parse' body source := by
  simp only [parseArguments]
  cases split : splitArguments 0 0 none source with
  | none => rfl
  | some arguments =>
    have each : ∀ argument ∈ arguments,
        parseArgument parse body (trim argument) = parseArgument parse' body (trim argument) :=
      fun argument member => parseArgument_congr body fun text shorter => same text <|
        (shorter.trans (length_trim_le argument)).trans
          (length_le_of_mem_splitArguments split argument member)
    simp only [mapM_congr each]

private theorem parsePlugin_congr (body : List Char) {rest : List Char}
    (same : ∀ text, text.length ≤ rest.length → parse text = parse' text) :
    parsePlugin parse body rest = parsePlugin parse' body rest := by
  simp only [parsePlugin]
  have first := (List.dropWhile_sublist (l := rest) (· ≠ '.')).length_le
  generalize rest.dropWhile (· ≠ '.') = behind at first
  cases behind with
  | nil => rfl
  | cons point member =>
    dsimp only
    have second := (List.dropWhile_sublist (l := member) (· ≠ '(')).length_le
    generalize member.dropWhile (· ≠ '(') = behind at second
    cases behind with
    | nil => rfl
    | cons opening call =>
      dsimp only
      cases closed : dropLast? ')' call with
      | none => rfl
      | some source =>
        have third := length_dropLast? closed
        have arguments : parseArguments parse body source = parseArguments parse' body source := by
          refine parseArguments_congr body fun text shorter => same text ?_
          simp only [List.length_cons] at first second
          omega
        simp only [arguments]

private theorem parseTarget_congr {body : List Char}
    (same : ∀ text, text.length < body.length → parse text = parse' text) :
    parseTarget parse body = parseTarget parse' body := by
  simp only [parseTarget]
  cases plugins : dropPrefix? "plugins.".toList body with
  | none => rfl
  | some rest =>
    refine parsePlugin_congr body fun text shorter => same text ?_
    have whole := congrArg List.length (dropPrefix?_eq_some_iff.mp plugins)
    have qualifier : "plugins.".toList.length = 8 := rfl
    rw [List.length_append] at whole
    omega

/-- A reader of references asks for the templates of shorter texts only. -/
theorem parseReference_congr {inner : List Char}
    (same : ∀ text, text.length < inner.length → parse text = parse' text) :
    parseReference parse inner = parseReference parse' inner := by
  have within := length_splitOptional_le inner
  have target : parseTarget parse (splitOptional inner).1 =
      parseTarget parse' (splitOptional inner).1 :=
    parseTarget_congr fun text shorter => same text (shorter.trans_le within)
  simp only [parseReference, target]

end Readers

/-! ## Templates -/

theorem placeholder_mem_consLiteral {text inner : List Char} {others : List Piece} :
    .placeholder inner ∈ consLiteral text others ↔ .placeholder inner ∈ others := by
  cases others with
  | nil => simp [consLiteral]
  | cons piece rest => cases piece <;> simp [consLiteral]

/-- The text inside a placeholder is shorter than the source. -/
theorem length_lt_of_mem_pieces {source inner : List Char}
    (member : .placeholder inner ∈ pieces source) : inner.length < source.length := by
  fun_induction pieces source with
  | case1 => cases member
  | case2 rest ih =>
    have shorter := ih (placeholder_mem_consLiteral.mp member)
    simp only [List.length_cons]
    omega
  | case3 => simp at member
  | case4 rest first behind found ih =>
    have whole := congrArg List.length (splitPlaceholder_eq found)
    simp only [List.length_append, List.length_cons] at whole ⊢
    cases List.mem_cons.mp member with
    | inl itself =>
      cases itself
      omega
    | inr later =>
      have shorter := ih later
      omega
  | case5 c rest _ _ ih =>
    have shorter := ih (placeholder_mem_consLiteral.mp member)
    simp only [List.length_cons]
    omega

/-- Two bounds above the length of a text give the same template. -/
theorem parseWithin_congr {source : List Char} {bound bound' : Nat} (within : source.length < bound)
    (within' : source.length < bound') : parseWithin bound source = parseWithin bound' source := by
  induction bound generalizing source bound' with
  | zero => cases within
  | succ bound ih =>
    obtain ⟨bound', rfl⟩ : ∃ lower, bound' = lower + 1 := ⟨bound' - 1, by omega⟩
    refine mapM_congr fun piece member => ?_
    cases piece with
    | literal text => rfl
    | placeholder inner =>
      have inside := length_lt_of_mem_pieces member
      have reference : parseReference (parseWithin bound) inner =
          parseReference (parseWithin bound') inner :=
        parseReference_congr fun text shorter => ih (by omega) (by omega)
      simp only [parsePiece, reference]

/-- The template of a text, whatever bound above its length it is read with. -/
theorem parseChars_eq {source : List Char} {bound : Nat} (within : source.length ≤ bound) :
    parseChars source = (pieces source).mapM (parsePiece (parseWithin bound)) :=
  parseWithin_congr (Nat.lt_succ_self _) (Nat.lt_succ_of_le within)

end RequestChain.Template
