import Mathlib.Data.List.TakeWhile
import RequestChain.Proofs.Json.Numbers
import RequestChain.Proofs.Json.Strings

/-! # The ways to write a JSON value, and reading them

`Written levels value text` says that `text` is a way to write `value` with at most `levels` arrays
and objects around any other value. Blanks may stand between the tokens and strings may be spelled
in any way; a number is whole and fits a 64-bit word, or stands for what its parts are read as.
Every way to write a value is read back as that value, and the compact form is one of them.

The induction is on the levels, as in the reader: a reader of items that reads its pieces reads
them in a row, so what is known of one level carries over to the next.
-/

namespace RequestChain.Json

/-! ## Ways to write -/

/-- Nothing but blanks. -/
def Blank (text : List Char) : Prop :=
  ∀ c ∈ text, isSpace c = true

/-- Pieces with commas between them and blanks around them. -/
inductive Row {α : Type} (Piece : α → List Char → Prop) : List α → List Char → Prop
  | last {value : α} {front text back : List Char} (before : Blank front)
      (piece : Piece value text) (behind : Blank back) :
      Row Piece [value] (front ++ (text ++ back))
  | cons {value : α} {values : List α} {front text back source : List Char}
      (before : Blank front) (piece : Piece value text) (behind : Blank back)
      (others : Row Piece values source) :
      Row Piece (value :: values) (front ++ (text ++ (back ++ ',' :: source)))

/-- What stands between the brackets of an array or the braces of an object. -/
inductive Content {α : Type} (Piece : α → List Char → Prop) : List α → List Char → Prop
  | empty {text : List Char} (blank : Blank text) : Content Piece [] text
  | row {values : List α} {text : List Char} (row : Row Piece values text) :
      Content Piece values text

/-- A value that holds no others. -/
inductive WrittenScalar : Json → List Char → Prop
  | null : WrittenScalar .null "null".toList
  | bool (value : Bool) : WrittenScalar (.bool value) (compact (.bool value)).toList
  | whole {value : Int} (word : IsWord value) :
      WrittenScalar (.number (.whole value)) (toString value).toList
  | real {syn : NumberSyntax} {x : Decimal.Binary64} {text : List Char}
      (written : WrittenNumber syn text) (value : syn.value? = some (.real x)) :
      WrittenScalar (.number (.real x)) text
  | string {text : String} {spelling : List Char} (spelled : Spelled text.toList spelling) :
      WrittenScalar (.string text) ('"' :: (spelling ++ ['"']))

section

variable (Inner : Json → List Char → Prop)

/-- A name, a colon and a value. -/
inductive WrittenField : String × Json → List Char → Prop
  | mk {name : String} {value : Json} {spelling front back text : List Char}
      (spelled : Spelled name.toList spelling) (before : Blank front) (behind : Blank back)
      (written : Inner value text) :
      WrittenField (name, value) ('"' :: (spelling ++ '"' :: (front ++ ':' :: (back ++ text))))

/-- An array or an object of values that are written in a given way. -/
inductive WrittenTree : Json → List Char → Prop
  | array {items : List Json} {text : List Char} (content : Content Inner items text) :
      WrittenTree (.array items) ('[' :: (text ++ [']']))
  | object {fields : List (String × Json)} {text : List Char}
      (content : Content (WrittenField Inner) fields text) :
      WrittenTree (.object fields) ('\x7b' :: (text ++ ['\x7d']))

end

/-- The ways to write a value with at most so many arrays and objects around any other. -/
def Written : Nat → Json → List Char → Prop
  | 0 => WrittenScalar
  | levels + 1 => fun value text =>
    WrittenScalar value text ∨ WrittenTree (Written levels) value text

/-- A text that is a value with blanks at its ends. -/
inductive WrittenText (levels : Nat) (value : Json) : List Char → Prop
  | mk {front text back : List Char} (before : Blank front) (written : Written levels value text)
      (behind : Blank back) : WrittenText levels value (front ++ (text ++ back))

theorem Written.scalar {levels : Nat} {value : Json} {text : List Char}
    (scalar : WrittenScalar value text) : Written levels value text := by
  cases levels with
  | zero => exact scalar
  | succ levels => exact .inl scalar

theorem Written.tree {levels : Nat} {value : Json} {text : List Char}
    (tree : WrittenTree (Written levels) value text) : Written (levels + 1) value text := .inr tree

/-! ## Blanks -/

theorem skipSpace_blank {front : List Char} (before : Blank front) (text : List Char) :
    skipSpace (front ++ text) = skipSpace text := by
  rw [skipSpace, skipSpace, List.dropWhile_append_of_pos before]

theorem skipSpace_cons {c : Char} {rest : List Char} (visible : isSpace c = false) :
    skipSpace (c :: rest) = c :: rest := by
  rw [skipSpace, List.dropWhile_cons_of_neg (by simp [visible])]

theorem Blank.delimited {back rest : List Char} (behind : Blank back) (delimited : Delimited rest) :
    Delimited (back ++ rest) := by
  cases back with
  | nil => exact delimited
  | cons c others =>
    refine delimited_cons ?_
    rw [isDelimiter, behind c List.mem_cons_self, Bool.true_or]

/-! ## Pieces in a row -/

/-- A reader finds a value in front of whatever delimiter stands behind its text, and the text does
not begin with a delimiter itself. -/
structure Legible {α : Type} (reader : Reader α) (value : α) (text : List Char) : Prop where
  start : ∃ c rest, text = c :: rest ∧ isDelimiter c = false
  reads : ∀ rest, Delimited rest → reader (text ++ rest) = some (value, rest)

section

variable {α : Type} {reader : Reader α} {Piece : α → List Char → Prop} {values : List α}
  {text : List Char} {closing : Char}

theorem Legible.skipSpace_append {value : α} (legible : Legible reader value text)
    {front : List Char} (before : Blank front) (rest : List Char) :
    skipSpace (front ++ (text ++ rest)) = text ++ rest := by
  obtain ⟨c, others, rfl, other⟩ := legible.start
  rw [skipSpace_blank before, List.cons_append, skipSpace_cons (Bool.or_eq_false_iff.mp other).1]

variable (legible : ∀ value text, Piece value text → Legible reader value text)
include legible

/-- A row is at least as long as it has pieces. -/
theorem Row.length_le (row : Row Piece values text) : values.length ≤ text.length := by
  induction row with
  | last before piece behind =>
    obtain ⟨c, rest, rfl, -⟩ := (legible _ _ piece).start
    simp only [List.length_append, List.length_cons, List.length_nil]
    omega
  | cons before piece behind others ih =>
    simp only [List.length_append, List.length_cons]
    omega

variable (closes : closing = ']' ∨ closing = '\x7d')
include closes

/-- A reader of pieces reads them in a row up to the closing character. -/
theorem Row.read (row : Row Piece values text) {bound : Nat} (within : values.length ≤ bound)
    (rest : List Char) :
    readSeparated reader closing bound (text ++ closing :: rest) = some (values, rest) := by
  have delimiter : isDelimiter closing = true := by obtain rfl | rfl := closes <;> rfl
  have visible : isSpace closing = false := by obtain rfl | rfl := closes <;> rfl
  have notComma : closing ≠ ',' := by obtain rfl | rfl := closes <;> decide
  induction row generalizing bound with
  | @last value front text back before piece behind =>
    obtain ⟨left, rfl⟩ : ∃ left, bound = left + 1 := ⟨bound - 1, by simp at within; omega⟩
    have found := legible _ _ piece
    have read := found.reads (back ++ closing :: rest) (behind.delimited (delimited_cons delimiter))
    rw [List.append_assoc, List.append_assoc, readSeparated, found.skipSpace_append before, read]
    simp [skipSpace_blank behind, skipSpace_cons visible]
  | @cons value values front text back source before piece behind others ih =>
    obtain ⟨left, rfl⟩ : ∃ left, bound = left + 1 := ⟨bound - 1, by simp at within; omega⟩
    have found := legible _ _ piece
    have read := found.reads (back ++ ',' :: (source ++ closing :: rest))
      (behind.delimited (delimited_cons rfl))
    have tail : readSeparated reader closing left (source ++ closing :: rest) =
        some (values, rest) := ih (by simp at within; omega)
    rw [List.append_assoc, List.append_assoc, List.append_assoc, List.cons_append, readSeparated,
      found.skipSpace_append before, read]
    simp [skipSpace_blank behind, skipSpace_cons (show isSpace ',' = false from rfl), tail]

/-- The first visible character of a row is not the closing one. -/
theorem Row.start (row : Row Piece values text) (rest : List Char) :
    ∃ c others, skipSpace (text ++ rest) = c :: others ∧ c ≠ closing := by
  have first {value : α} {front text : List Char} (before : Blank front)
      (piece : Piece value text) (rest : List Char) :
      ∃ c others, skipSpace (front ++ (text ++ rest)) = c :: others ∧ c ≠ closing := by
    have found := legible _ _ piece
    rw [found.skipSpace_append before]
    obtain ⟨c, others, rfl, other⟩ := found.start
    refine ⟨c, others ++ rest, rfl, ?_⟩
    rintro rfl
    obtain rfl | rfl := closes <;> exact absurd other (by decide)
  cases row with
  | last before piece behind =>
    rw [List.append_assoc, List.append_assoc]
    exact first before piece _
  | cons before piece behind others =>
    rw [List.append_assoc, List.append_assoc]
    exact first before piece _

theorem Content.read (content : Content Piece values text) (rest : List Char) :
    readEnclosed reader closing (text ++ closing :: rest) = some (values, rest) := by
  have visible : isSpace closing = false := by obtain rfl | rfl := closes <;> rfl
  cases content with
  | empty blank => simp [readEnclosed, skipSpace_blank blank, skipSpace_cons visible]
  | row row =>
    obtain ⟨c, others, found, other⟩ := row.start legible closes (closing :: rest)
    have within : values.length ≤ (text ++ closing :: rest).length := by
      have short := row.length_le legible
      rw [List.length_append]
      omega
    simp only [readEnclosed, found, if_neg other]
    exact row.read legible closes within rest

end

/-! ## Values -/

private theorem readValue_numeral {levels : Nat} {c : Char} {rest : List Char}
    (numeral : c.isDigit = true ∨ c = '-') :
    readValue levels (c :: rest) = (do
      let (syn, behind) ← readNumberSyntax (c :: rest)
      some (.number (← syn.value?), behind)) := by
  have other {special : Char} (notDigit : special.isDigit = false) (notMinus : special ≠ '-') :
      c ≠ special := by
    rintro rfl
    simp [notDigit, notMinus] at numeral
  rw [readValue]
  all_goals exact fun _ same => other (by decide) (by decide) (List.cons.inj same).1

private theorem WrittenNumber.legible {syn : NumberSyntax} {number : JsonNumber} {text : List Char}
    (written : WrittenNumber syn text) (value : syn.value? = some number) (levels : Nat) :
    Legible (readValue levels) (.number number) text := by
  obtain ⟨c, others, shape, numeral⟩ := written.start
  refine ⟨⟨c, others, shape, isDelimiter_of_numeral numeral⟩, fun rest delimited => ?_⟩
  have read := written.read delimited
  rw [shape, List.cons_append] at read ⊢
  simp [readValue_numeral numeral, read, value]

theorem WrittenScalar.legible {value : Json} {text : List Char} (scalar : WrittenScalar value text)
    (levels : Nat) : Legible (readValue levels) value text := by
  cases scalar with
  | null => exact ⟨⟨'n', _, rfl, rfl⟩, fun rest _ => by cases levels <;> rfl⟩
  | bool value =>
    cases value with
    | true => exact ⟨⟨'t', _, rfl, rfl⟩, fun rest _ => by cases levels <;> rfl⟩
    | false => exact ⟨⟨'f', _, rfl, rfl⟩, fun rest _ => by cases levels <;> rfl⟩
  | whole word =>
    obtain ⟨syn, written, value⟩ := exists_writtenNumber_whole_iff.mpr ⟨word, rfl⟩
    exact written.legible value levels
  | real written value => exact written.legible value levels
  | @string text spelling spelled =>
    refine ⟨⟨'"', _, rfl, rfl⟩, fun rest _ => ?_⟩
    have read : readString (spelling ++ '"' :: rest) = some (text, rest) :=
      readString_iff.mpr ⟨spelling, spelled, rfl⟩
    simp [readValue, read]

section

variable {Inner : Json → List Char → Prop} {levels : Nat}
  (inner : ∀ value text, Inner value text → Legible (readValue levels) value text)
include inner

theorem WrittenField.legible {field : String × Json} {text : List Char}
    (written : WrittenField Inner field text) :
    Legible (readField (readValue levels)) field text := by
  cases written with
  | @mk name value spelling front back text spelled before behind written =>
    refine ⟨⟨'"', _, rfl, rfl⟩, fun rest delimited => ?_⟩
    have found := inner _ _ written
    have colon : isSpace ':' = false := rfl
    have read (left : List Char) : readString (spelling ++ '"' :: left) = some (name, left) :=
      readString_iff.mpr ⟨spelling, spelled, rfl⟩
    simp [readField, read, skipSpace_blank before, skipSpace_cons colon,
      found.skipSpace_append behind, found.reads rest delimited]

theorem WrittenTree.legible {value : Json} {text : List Char}
    (tree : WrittenTree Inner value text) : Legible (readValue (levels + 1)) value text := by
  cases tree with
  | @array items text content =>
    refine ⟨⟨'[', _, rfl, rfl⟩, fun rest _ => ?_⟩
    simp [readValue, content.read inner (.inl rfl) rest]
  | @object fields text content =>
    refine ⟨⟨'\x7b', _, rfl, rfl⟩, fun rest _ => ?_⟩
    have read := content.read (fun _ _ => WrittenField.legible inner) (.inr rfl) rest
    simp [readValue, read]

end

/-- Every way to write a value is read as that value. -/
theorem Written.legible {levels : Nat} {value : Json} {text : List Char}
    (written : Written levels value text) : Legible (readValue levels) value text := by
  induction levels generalizing value text with
  | zero => exact WrittenScalar.legible written 0
  | succ levels ih =>
    obtain scalar | tree := written
    · exact scalar.legible (levels + 1)
    · exact tree.legible fun _ _ => ih

/-- A text that writes a value is read as a whole as that value. -/
theorem WrittenText.read {levels : Nat} {value : Json} {source : List Char}
    (written : WrittenText levels value source) : read? levels source = some value := by
  obtain @⟨front, text, back, before, written, behind⟩ := written
  have legible := written.legible
  have delimited : Delimited back := by simpa using behind.delimited delimited_nil
  have nothing : skipSpace back = [] := List.dropWhile_eq_nil_iff.mpr behind
  simp [read?, legible.skipSpace_append before, legible.reads back delimited, nothing]

/-! ## The compact form -/

/-- Whether a value holds no others and is no number but a whole one that fits a word. -/
def isPlain : Json → Bool
  | .null | .bool _ | .string _ => true
  | .number (.whole value) => decide (IsWord value)
  | .number (.real _) | .array _ | .object _ => false

/-- Whether arrays and objects nest at most so deep and all numbers are whole and fit a word. -/
def fits : Nat → Json → Bool
  | levels + 1, .array items => items.all (fits levels)
  | levels + 1, .object fields => fields.all fun field => fits levels field.2
  | _, value => value.isPlain

theorem blank_nil : Blank [] := by simp [Blank]

private theorem row_intercalate {α : Type} {Piece : α → List Char → Prop} {write : α → List Char}
    {first : α} {others : List α} (written : ∀ value ∈ first :: others, Piece value (write value)) :
    Row Piece (first :: others) (List.intercalate [','] ((first :: others).map write)) := by
  obtain ⟨head, tail⟩ := List.forall_mem_cons.mp written
  induction others generalizing first with
  | nil => simpa using Row.last blank_nil head blank_nil
  | cons second rest ih =>
    obtain ⟨next, behind⟩ := List.forall_mem_cons.mp tail
    simpa [List.intercalate_cons_cons] using Row.cons blank_nil head blank_nil (ih tail next behind)

/-- Pieces with nothing but commas between them. -/
theorem content_intercalate {α : Type} {Piece : α → List Char → Prop} {write : α → List Char}
    {values : List α} (written : ∀ value ∈ values, Piece value (write value)) :
    Content Piece values (List.intercalate [','] (values.map write)) := by
  cases values with
  | nil => exact .empty blank_nil
  | cons first others => exact .row (row_intercalate written)

private theorem toList_compactItems (items : List Json) :
    (compactItems items).toList = List.intercalate [','] (items.map (·.compact.toList)) := by
  induction items with
  | nil => rfl
  | cons item rest ih =>
    cases rest with
    | nil => simp [compactItems]
    | cons second rest => simp [compactItems, List.intercalate_cons_cons, ih]

/-- A field in the compact form. -/
def compactField (field : String × Json) : List Char :=
  (quote field.1).toList ++ ':' :: field.2.compact.toList

private theorem writtenField_compact {Inner : Json → List Char → Prop} {field : String × Json}
    (written : Inner field.2 field.2.compact.toList) :
    WrittenField Inner field (compactField field) := by
  simpa [compactField, toList_quote] using
    WrittenField.mk (spelled_escaped field.1.toList) blank_nil blank_nil written

private theorem toList_compactFields (fields : List (String × Json)) :
    (compactFields fields).toList = List.intercalate [','] (fields.map compactField) := by
  induction fields with
  | nil => rfl
  | cons field rest ih =>
    cases rest with
    | nil => simp [compactFields, compactField]
    | cons second rest => simp [compactFields, compactField, List.intercalate_cons_cons, ih]

private theorem writtenScalar_compact {value : Json} (plain : value.isPlain = true) :
    WrittenScalar value value.compact.toList := by
  cases value with
  | null => exact .null
  | bool value => exact .bool value
  | string text =>
    rw [compact, toList_quote]
    exact .string (spelled_escaped text.toList)
  | number number =>
    cases number with
    | whole value => exact .whole (of_decide_eq_true plain)
    | real value => cases plain
  | array items => cases plain
  | object fields => cases plain

/-- The compact form is a way to write a value. -/
theorem written_compact {levels : Nat} {value : Json} (fit : value.fits levels = true) :
    Written levels value value.compact.toList := by
  induction levels generalizing value with
  | zero =>
    have plain : value.isPlain = true := by cases value <;> exact fit
    exact .scalar (writtenScalar_compact plain)
  | succ levels ih =>
    cases value with
    | array items =>
      have content : Content (Written levels) items (compactItems items).toList :=
        toList_compactItems items ▸
          content_intercalate fun item member => ih (List.all_eq_true.mp fit item member)
      simpa [compact] using Written.tree (.array content)
    | object fields =>
      have content : Content (WrittenField (Written levels)) fields
          (compactFields fields).toList :=
        toList_compactFields fields ▸ content_intercalate fun field member =>
          writtenField_compact (ih (List.all_eq_true.mp fit field member))
      simpa [compact] using Written.tree (.object content)
    | _ => exact .scalar (writtenScalar_compact fit)

theorem writtenText_compact {levels : Nat} {value : Json} (fit : value.fits levels = true) :
    WrittenText levels value value.compact.toList := by
  simpa using WrittenText.mk blank_nil (written_compact fit) blank_nil

/-- Reading undoes compact printing, up to the order of fields. -/
theorem parse?_compact {value : Json} (fit : value.fits maxLevels = true) :
    parse? value.compact = some value.sorted := by
  rw [parse?, (writtenText_compact fit).read, Option.map_some]

end RequestChain.Json
