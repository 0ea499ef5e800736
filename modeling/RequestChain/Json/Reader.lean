import RequestChain.Json.Basic

/-! # Reading JSON

A reader takes a value from the front of a text and returns the rest. Values nest at most as deep
as the reader is told. Whole numbers that fit a 64-bit word stay whole; the others are read as a
word scaled by a power of ten.
-/

namespace RequestChain.Json

/-- A reader takes a value from the front of a text and returns the text behind it. -/
abbrev Reader (α : Type) := List Char → Option (α × List Char)

/-- The blanks of JSON. -/
def isSpace (c : Char) : Bool :=
  c == ' ' || c == '\n' || c == '\t' || c == '\r'

/-- The text behind its leading blanks. -/
def skipSpace (text : List Char) : List Char :=
  text.dropWhile isSpace

/-- The value of a hexadecimal digit. -/
def hexDigit? (c : Char) : Option Nat :=
  if '0' ≤ c ∧ c ≤ '9' then some (c.toNat - 0x30)
  else if 'a' ≤ c ∧ c ≤ 'f' then some (c.toNat - 0x57)
  else if 'A' ≤ c ∧ c ≤ 'F' then some (c.toNat - 0x37)
  else none

/-- Four hexadecimal digits. -/
def readCode : List Char → Option (Nat × List Char)
  | a :: b :: c :: d :: rest => do
    let code := (((← hexDigit? a) * 16 + (← hexDigit? b)) * 16 + (← hexDigit? c)) * 16 +
      (← hexDigit? d)
    some (code, rest)
  | _ => none

/-- The first half of a pair that stands for one character. -/
def isHighSurrogate (code : Nat) : Bool := 0xd800 ≤ code && code < 0xdc00

/-- The second half of a pair that stands for one character. -/
def isLowSurrogate (code : Nat) : Bool := 0xdc00 ≤ code && code < 0xe000

/-- The character that an escape by code stands for; halves of pairs must come in pairs. -/
def readEscapedCode (text : List Char) : Option (Char × List Char) := do
  let (code, rest) ← readCode text
  if isLowSurrogate code then none
  else if isHighSurrogate code then
    match rest with
    | '\\' :: 'u' :: rest => do
      let (second, rest) ← readCode rest
      if isLowSurrogate second then
        some (Char.ofNat (0x10000 + (code - 0xd800) * 0x400 + (second - 0xdc00)), rest)
      else none
    | _ => none
  else some (Char.ofNat code, rest)

/-- The character behind a backslash. -/
def readEscape : List Char → Option (Char × List Char)
  | '"' :: rest => some ('"', rest)
  | '\\' :: rest => some ('\\', rest)
  | '/' :: rest => some ('/', rest)
  | 'b' :: rest => some (Char.ofNat 8, rest)
  | 'f' :: rest => some (Char.ofNat 12, rest)
  | 'n' :: rest => some ('\n', rest)
  | 'r' :: rest => some ('\r', rest)
  | 't' :: rest => some ('\t', rest)
  | 'u' :: rest => readEscapedCode rest
  | _ => none

/-- The characters up to the closing quote. The first number bounds how many are read. -/
def readQuoted : Nat → List Char → Option (List Char × List Char)
  | 0, _ => none
  | _ + 1, [] => none
  | _ + 1, '"' :: rest => some ([], rest)
  | bound + 1, '\\' :: rest => do
    let (c, rest) ← readEscape rest
    let (text, rest) ← readQuoted bound rest
    some (c :: text, rest)
  | bound + 1, c :: rest =>
    if c.toNat < 0x20 then none
    else do
      let (text, rest) ← readQuoted bound rest
      some (c :: text, rest)

/-- A string whose opening quote has been read. -/
def readString (text : List Char) : Option (String × List Char) := do
  let (content, rest) ← readQuoted (text.length + 1) text
  some (String.ofList content, rest)

/-- The value of an ASCII digit. -/
def digitValue (c : Char) : Nat := c.toNat - 0x30

/-- The largest 64-bit word. -/
def maxWord : Nat := Nat.pow 2 64 - 1

/-- The leading digits of a number as far as they fit a word, and how many are left over. -/
def wordOf (start : Nat) : List Char → Nat × List Char
  | [] => (start, [])
  | digit :: rest =>
    let next := start * 10 + digitValue digit
    if maxWord < next then (start, digit :: rest) else wordOf next rest

/-- The parts of a number as they are written. -/
structure NumberSyntax where
  negative : Bool
  /-- Digits before the point. -/
  integer : List Char
  /-- Digits behind the point, if there is one. -/
  fraction : Option (List Char)
  /-- Whether the exponent is negative, and its digits, if there is one. -/
  exponent : Option (Bool × List Char)
  deriving Repr

/-- At least one digit. -/
def readDigits (text : List Char) : Option (List Char × List Char) :=
  match text.takeWhile Char.isDigit with
  | [] => none
  | digits => some (digits, text.dropWhile Char.isDigit)

/-- The digits before the point: no zero leads other digits. -/
def readInteger (text : List Char) : Option (List Char × List Char) :=
  match text with
  | '0' :: rest =>
    match rest with
    | c :: _ => if c.isDigit then none else some (['0'], rest)
    | [] => some (['0'], [])
  | _ => readDigits text

/-- The part behind a point. -/
def readFraction : List Char → Option (Option (List Char) × List Char)
  | '.' :: rest => (readDigits rest).map fun (digits, rest) => (some digits, rest)
  | rest => some (none, rest)

/-- The part behind the letter `e`. -/
def readExponent : List Char → Option (Option (Bool × List Char) × List Char)
  | 'e' :: rest | 'E' :: rest =>
    let (negative, rest) := match rest with
      | '-' :: rest => (true, rest)
      | '+' :: rest => (false, rest)
      | rest => (false, rest)
    (readDigits rest).map fun (digits, rest) => (some (negative, digits), rest)
  | rest => some (none, rest)

/-- The parts of a number at the front of a text. -/
def readNumberSyntax (text : List Char) : Option (NumberSyntax × List Char) := do
  let (negative, text) := match text with
    | '-' :: rest => (true, rest)
    | _ => (false, text)
  let (integer, text) ← readInteger text
  let (fraction, text) ← readFraction text
  let (exponent, text) ← readExponent text
  some (⟨negative, integer, fraction, exponent⟩, text)

/-- The whole number of some digits. -/
def natOfDigits (digits : List Char) : Nat :=
  digits.foldl (fun value digit => value * 10 + digitValue digit) 0

/-- The word and the power of ten of a number: digits that no longer fit the word count as powers
of ten before the point and are dropped behind it. -/
def NumberSyntax.parts (syn : NumberSyntax) : Nat × Int :=
  let (word, leftover) := wordOf 0 syn.integer
  let fraction := syn.fraction.getD []
  let (word, unread) := wordOf word fraction
  let exponent : Int := match syn.exponent with
    | none => 0
    | some (true, digits) => -(natOfDigits digits : Int)
    | some (false, digits) => natOfDigits digits
  (word, exponent + leftover.length - (fraction.length - unread.length : Nat))

/-- The value of a number; a magnitude beyond the largest is refused. -/
def NumberSyntax.value? (syn : NumberSyntax) : Option JsonNumber :=
  let (word, power) := syn.parts
  let whole := syn.fraction.isNone && syn.exponent.isNone && power == 0
  if whole && !syn.negative then some (.whole word)
  else if whole && syn.negative && word ≠ 0 && word ≤ Nat.pow 2 63 then
    some (.whole (-(word : Int)))
  else (Decimal.Binary64.scaleDecimal? word power).map fun x => .real (x.withSign syn.negative)

/-- Values separated by commas, with blanks around them, up to a closing character. The first
number bounds how many are read. -/
def readSeparated {α : Type} (item : Reader α) (closing : Char) :
    Nat → List Char → Option (List α × List Char)
  | 0, _ => none
  | bound + 1, text => do
    let (value, rest) ← item (skipSpace text)
    match skipSpace rest with
    | ',' :: rest =>
      let (values, rest) ← readSeparated item closing bound rest
      some (value :: values, rest)
    | c :: rest => if c = closing then some ([value], rest) else none
    | [] => none

/-- No values or some, up to a closing character. -/
def readEnclosed {α : Type} (item : Reader α) (closing : Char)
    (text : List Char) : Option (List α × List Char) :=
  match skipSpace text with
  | [] => none
  | c :: rest =>
    if c = closing then some ([], rest) else readSeparated item closing text.length text

/-- A name, a colon and a value. -/
def readField (value : Reader Json) : List Char → Option ((String × Json) × List Char)
  | '"' :: rest => do
    let (name, rest) ← readString rest
    match skipSpace rest with
    | ':' :: rest =>
      let (held, rest) ← value (skipSpace rest)
      some ((name, held), rest)
    | _ => none
  | _ => none

/-- A value at the front of a text, with at most `levels` arrays and objects around any other. -/
def readValue (levels : Nat) (text : List Char) : Option (Json × List Char) :=
  match text with
  | 'n' :: 'u' :: 'l' :: 'l' :: rest => some (.null, rest)
  | 't' :: 'r' :: 'u' :: 'e' :: rest => some (.bool true, rest)
  | 'f' :: 'a' :: 'l' :: 's' :: 'e' :: rest => some (.bool false, rest)
  | '"' :: rest => (readString rest).map fun (content, rest) => (.string content, rest)
  | '[' :: rest =>
    match levels with
    | 0 => none
    | deeper + 1 =>
      (readEnclosed (readValue deeper) ']' rest).map fun (items, rest) => (.array items, rest)
  | '{' :: rest =>
    match levels with
    | 0 => none
    | deeper + 1 =>
      (readEnclosed (readField (readValue deeper)) '}' rest).map fun (fields, rest) =>
        (.object fields, rest)
  | _ => do
    let (syn, rest) ← readNumberSyntax text
    some (.number (← syn.value?), rest)

/-- A whole text as one value, its fields as they are written. -/
def read? (levels : Nat) (text : List Char) : Option Json :=
  match readValue levels (skipSpace text) with
  | some (value, rest) => if (skipSpace rest).isEmpty then some value else none
  | none => none

/-- How deep arrays and objects may nest. -/
def maxLevels : Nat := 127

/-- A whole text as one value with sorted fields. -/
def parse? (text : String) : Option Json :=
  (read? maxLevels text.toList).map sorted

end RequestChain.Json
