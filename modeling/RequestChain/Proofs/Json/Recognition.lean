import RequestChain.Proofs.Json.Reading

/-! # Reading accepts nothing but JSON

Every way to write a value is read as that value. Here is the converse: what is read from the front
of a text is a way to write the value that is found. So a text is read as a whole exactly if it
writes a value, with blanks at its ends, no deeper than the reader goes.

One lemma on pieces in a row serves arrays and objects, and the induction is on the levels.
-/

namespace RequestChain.Json

/-- What a reader takes from the front of a text is a way to write what it finds. -/
def Recognises {α : Type} (reader : Reader α) (Piece : α → List Char → Prop) : Prop :=
  ∀ {source value rest}, reader source = some (value, rest) →
    ∃ text, Piece value text ∧ source = text ++ rest

theorem exists_blank (source : List Char) :
    ∃ front, Blank front ∧ source = front ++ skipSpace source :=
  ⟨source.takeWhile isSpace, fun _ => List.mem_takeWhile_imp, List.takeWhile_append_dropWhile.symm⟩

/-! ## Pieces in a row -/

section

variable {α : Type} {reader : Reader α} {Piece : α → List Char → Prop} {closing : Char}
  {values : List α} {source rest : List Char} (recognises : Recognises reader Piece)
include recognises

theorem exists_row_of_readSeparated {bound : Nat}
    (read : readSeparated reader closing bound source = some (values, rest)) :
    ∃ text, Row Piece values text ∧ source = text ++ closing :: rest := by
  induction bound generalizing source values with
  | zero => cases read
  | succ bound ih =>
    obtain ⟨⟨value, behind⟩, first, others⟩ := Option.bind_eq_some_iff.mp read
    obtain ⟨text, piece, found⟩ := recognises first
    obtain ⟨front, before, shape⟩ := exists_blank source
    obtain ⟨back, after, gap⟩ := exists_blank behind
    rw [shape, found, gap]
    dsimp only at others
    split at others
    next left next =>
      obtain ⟨⟨tail, behind⟩, more, same⟩ := Option.bind_eq_some_iff.mp others
      obtain ⟨rfl, rfl⟩ := Prod.mk.inj (Option.some.inj same)
      obtain ⟨source, row, rfl⟩ := ih more
      rw [next]
      exact ⟨_, .cons before piece after row, by simp⟩
    next c left next =>
      split at others
      next closes =>
        obtain ⟨rfl, rfl⟩ := Prod.mk.inj (Option.some.inj others)
        rw [next, closes]
        exact ⟨_, .last before piece after, by simp⟩
      next => cases others
    next => cases others

theorem exists_content_of_readEnclosed
    (read : readEnclosed reader closing source = some (values, rest)) :
    ∃ text, Content Piece values text ∧ source = text ++ closing :: rest := by
  unfold readEnclosed at read
  split at read
  next => cases read
  next c left found =>
    split at read
    next closes =>
      obtain ⟨rfl, rfl⟩ := Prod.mk.inj (Option.some.inj read)
      obtain ⟨front, blank, shape⟩ := exists_blank source
      rw [shape, found, closes]
      exact ⟨front, .empty blank, rfl⟩
    next =>
      obtain ⟨text, row, shape⟩ := exists_row_of_readSeparated recognises read
      exact ⟨text, .row row, shape⟩

end

/-! ## Values -/

theorem recognises_readField {inner : Reader Json} {Inner : Json → List Char → Prop}
    (recognises : Recognises inner Inner) : Recognises (readField inner) (WrittenField Inner) := by
  intro source field rest read
  unfold readField at read
  split at read
  next others =>
    obtain ⟨⟨name, behind⟩, named, others⟩ := Option.bind_eq_some_iff.mp read
    obtain ⟨spelling, spelled, rfl⟩ := readString_iff.mp named
    obtain ⟨front, before, shape⟩ := exists_blank behind
    dsimp only at others
    split at others
    next left colon =>
      obtain ⟨⟨held, behind⟩, found, same⟩ := Option.bind_eq_some_iff.mp others
      obtain ⟨rfl, rfl⟩ := Prod.mk.inj (Option.some.inj same)
      obtain ⟨text, written, value⟩ := recognises found
      obtain ⟨back, after, gap⟩ := exists_blank left
      rw [shape, colon, gap, value]
      exact ⟨_, .mk spelled before after written, by simp⟩
    next => cases others
  next => cases read

private theorem exists_writtenScalar_of_number {syn : NumberSyntax} {number : JsonNumber}
    {source rest : List Char} (read : readNumberSyntax source = some (syn, rest))
    (value : syn.value? = some number) :
    ∃ text, WrittenScalar (.number number) text ∧ source = text ++ rest := by
  obtain ⟨text, written, rfl⟩ := exists_writtenNumber read
  cases number with
  | whole whole =>
    obtain ⟨word, rfl⟩ := exists_writtenNumber_whole_iff.mp ⟨syn, written, value⟩
    exact ⟨_, .whole word, rfl⟩
  | real x => exact ⟨text, .real written value, rfl⟩

private theorem recognises_values {levels : Nat}
    (inside : ∀ deeper, levels = deeper + 1 → Recognises (readValue deeper) (Written deeper)) :
    Recognises (readValue levels) (Written levels) := by
  intro source value rest read
  have scalar {text source : List Char} {found : Json} (written : WrittenScalar found text)
      (same : some (found, source) = some (value, rest)) :
      ∃ front, Written levels value front ∧ text ++ source = front ++ rest := by
    obtain ⟨rfl, rfl⟩ := Prod.mk.inj (Option.some.inj same)
    exact ⟨text, .scalar written, rfl⟩
  unfold readValue at read
  split at read
  next => exact scalar .null read
  next => exact scalar (.bool true) read
  next => exact scalar (.bool false) read
  next =>
    obtain ⟨⟨text, behind⟩, found, same⟩ := Option.map_eq_some_iff.mp read
    obtain ⟨spelling, spelled, rfl⟩ := readString_iff.mp found
    obtain ⟨front, written, shape⟩ := scalar (.string spelled) (congrArg some same)
    exact ⟨front, written, by simpa using shape⟩
  next =>
    split at read
    next => cases read
    next deeper =>
      obtain ⟨⟨items, behind⟩, found, same⟩ := Option.map_eq_some_iff.mp read
      obtain ⟨rfl, rfl⟩ := Prod.mk.inj same
      obtain ⟨text, content, rfl⟩ := exists_content_of_readEnclosed (inside deeper rfl) found
      exact ⟨_, .tree (.array content), by simp⟩
  next =>
    split at read
    next => cases read
    next deeper =>
      obtain ⟨⟨fields, behind⟩, found, same⟩ := Option.map_eq_some_iff.mp read
      obtain ⟨rfl, rfl⟩ := Prod.mk.inj same
      obtain ⟨text, content, rfl⟩ :=
        exists_content_of_readEnclosed (recognises_readField (inside deeper rfl)) found
      exact ⟨_, .tree (.object content), by simp⟩
  next =>
    obtain ⟨⟨syn, behind⟩, found, read⟩ := Option.bind_eq_some_iff.mp read
    obtain ⟨number, isValue, same⟩ := Option.bind_eq_some_iff.mp read
    obtain ⟨text, written, rfl⟩ := exists_writtenScalar_of_number found isValue
    exact scalar written same

/-- A value that is read from the front of a text is written there, with as many levels. -/
theorem recognises_readValue (levels : Nat) : Recognises (readValue levels) (Written levels) := by
  induction levels with
  | zero =>
    refine recognises_values fun _ none => ?_
    cases none
  | succ levels ih =>
    refine recognises_values fun deeper same => ?_
    obtain rfl := Nat.succ.inj same
    exact ih

/-! ## Whole texts -/

/-- A text is read as a value exactly if it writes the value. -/
theorem read?_iff {levels : Nat} {value : Json} {source : List Char} :
    read? levels source = some value ↔ WrittenText levels value source := by
  constructor
  · intro read
    unfold read? at read
    split at read
    next found behind first =>
      split at read
      next nothing =>
        obtain rfl := Option.some.inj read
        obtain ⟨front, before, shape⟩ := exists_blank source
        obtain ⟨text, written, between⟩ := recognises_readValue levels first
        obtain ⟨back, after, gap⟩ := exists_blank behind
        rw [List.isEmpty_iff] at nothing
        rw [nothing, List.append_nil] at gap
        rw [shape, between, gap]
        exact .mk before written after
      next => cases read
    next => cases read
  · exact WrittenText.read

theorem parse?_eq_none_iff {text : String} :
    parse? text = none ↔ ∀ value, ¬WrittenText maxLevels value text.toList := by
  rw [parse?, Option.map_eq_none_iff, Option.eq_none_iff_forall_ne_some]
  exact forall_congr' fun value => not_congr read?_iff

end RequestChain.Json
