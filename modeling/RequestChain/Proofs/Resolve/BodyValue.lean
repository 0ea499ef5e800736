import RequestChain.Context
import RequestChain.Proofs.Json.Recognition
import RequestChain.Proofs.Json.Scalars

/-! # The value of a body

Whether a body looks structured is told from its first visible character. That is enough: of the
texts that write a value, those of arrays and objects begin with characters of their own, behind the
blanks of JSON, which are blanks of Unicode as well. So a body has the value that it writes if that
is an array or an object, and else its text for a value.
-/

namespace RequestChain

open Json (Written WrittenScalar WrittenText)

/-! ## How values begin -/

namespace Json

theorem isBlank_of_isSpace {c : Char} (space : isSpace c = true) : Text.isBlank c = true := by
  have each : c = ' ' ∨ c = '\n' ∨ c = '\t' ∨ c = '\r' := by
    simpa [isSpace, or_assoc] using space
  obtain rfl | rfl | rfl | rfl := each <;> rfl

/-- The characters that begin arrays and objects. -/
def isOpening (c : Char) : Bool :=
  c == '[' || c == '\x7b'

private theorem not_isBlank_of_numeral {c : Char} (numeral : c.isDigit = true ∨ c = '-') :
    Text.isBlank c = false ∧ isOpening c = false := by
  obtain digit | rfl := numeral
  · have bounds := bounds_of_isDigit digit
    have visible : Text.isBlank c = false := by
      simp only [Text.isBlank, Bool.or_eq_false_iff, Bool.and_eq_false_iff, decide_eq_false_iff_not,
        beq_eq_false_iff_ne]
      omega
    have closed : isOpening c = false := by
      rw [isOpening, Bool.or_eq_false_iff, beq_eq_false_iff_ne, beq_eq_false_iff_ne]
      constructor <;> (rintro rfl; exact absurd digit (by decide))
    exact ⟨visible, closed⟩
  · exact ⟨rfl, rfl⟩

theorem WrittenScalar.start {value : Json} {text : List Char} (scalar : WrittenScalar value text) :
    ∃ c rest, text = c :: rest ∧ Text.isBlank c = false ∧ isOpening c = !value.isScalar := by
  cases scalar with
  | null => exact ⟨'n', _, rfl, rfl, rfl⟩
  | bool value => cases value <;> exact ⟨_, _, rfl, rfl, rfl⟩
  | whole word =>
    obtain ⟨syn, written, -⟩ := exists_writtenNumber_whole_iff.mpr ⟨word, rfl⟩
    obtain ⟨c, rest, shape, numeral⟩ := written.start
    exact ⟨c, rest, shape, not_isBlank_of_numeral numeral⟩
  | real written _ =>
    obtain ⟨c, rest, shape, numeral⟩ := written.start
    exact ⟨c, rest, shape, not_isBlank_of_numeral numeral⟩
  | string spelled => exact ⟨'"', _, rfl, rfl, rfl⟩

/-- A value begins with a visible character, and arrays and objects with one of their own. -/
theorem Written.start {levels : Nat} {value : Json} {text : List Char}
    (written : Written levels value text) :
    ∃ c rest, text = c :: rest ∧ Text.isBlank c = false ∧ isOpening c = !value.isScalar := by
  cases levels with
  | zero => exact WrittenScalar.start written
  | succ levels =>
    obtain scalar | tree := written
    · exact scalar.start
    · cases tree with
      | array content => exact ⟨'[', _, rfl, rfl, rfl⟩
      | object content => exact ⟨'\x7b', _, rfl, rfl, rfl⟩

end Json

namespace Response

variable {response : Response}

private theorem looksStructured_of_start {body : String} {front rest : List Char} {c : Char}
    (shape : body.toList = front ++ c :: rest) (blank : ∀ c ∈ front, Text.isBlank c = true)
    (visible : Text.isBlank c = false) : looksStructured body = Json.isOpening c := by
  have stops : Text.Stops Text.isBlank (c :: rest) := fun c first => by cases first; exact visible
  have cut : Text.trimStart body.toList = c :: rest := by
    rw [shape, Text.trimStart, Text.trimLeft, Text.dropWhile_append_of_stops blank stops]
  rw [looksStructured, cut]
  split
  next same => obtain ⟨rfl, -⟩ := List.cons.inj same; rfl
  next same => obtain ⟨rfl, -⟩ := List.cons.inj same; rfl
  next notBrace notBracket =>
    symm
    rw [Json.isOpening, Bool.or_eq_false_iff, beq_eq_false_iff_ne, beq_eq_false_iff_ne]
    exact ⟨fun same => notBracket rest (same ▸ rfl), fun same => notBrace rest (same ▸ rfl)⟩

/-- A body that writes a value looks structured exactly if the value holds others. -/
theorem looksStructured_of_writtenText {levels : Nat} {value : Json} {body : String}
    (written : WrittenText levels value body.toList) : looksStructured body = !value.isScalar := by
  generalize shape : body.toList = source at written
  obtain ⟨before, written, behind⟩ := written
  obtain ⟨c, rest, rfl, visible, opening⟩ := written.start
  have blank := fun c member => Json.isBlank_of_isSpace (before c member)
  rw [looksStructured_of_start shape blank visible, opening]

theorem bodyValue_of_writtenText {value : Json}
    (written : WrittenText Json.maxLevels value response.body.toList)
    (tree : value.isScalar = false) : response.bodyValue = value.sorted := by
  have structured : looksStructured response.body = true := by
    rw [looksStructured_of_writtenText written, tree]
    rfl
  have read : Json.parse? response.body = some value.sorted := by
    rw [Json.parse?, written.read, Option.map_some]
  rw [bodyValue, if_pos structured, read, Option.getD_some]

/-- A body that is neither an array nor an object is a string. -/
theorem bodyValue_of_plain (plain : ∀ value,
      WrittenText Json.maxLevels value response.body.toList → value.isScalar = true) :
    response.bodyValue = .string response.body := by
  rw [bodyValue]
  split
  next structured =>
    have unread : Json.parse? response.body = none := by
      rw [Json.parse?_eq_none_iff]
      intro value written
      have looks := looksStructured_of_writtenText written
      rw [structured, plain value written] at looks
      cases looks
    rw [unread, Option.getD_none]
  next => rfl

end Response

end RequestChain
