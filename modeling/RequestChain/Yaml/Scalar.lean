import RequestChain.Json.Basic
import RequestChain.Json.Reader
import RequestChain.Yaml.Node

/-! # What scalars mean

A plain scalar is null, a truth value, a number or else a string, and a scalar in quotes is a
string, unless a tag says otherwise. Whole numbers are decimal, or hexadecimal, octal or binary
behind a sign of their base; decimal digits behind a leading zero are no number.
-/

namespace RequestChain.Yaml.Scalar

/-- The spellings of null, besides nothing at all. -/
def isNull (text : String) : Bool :=
  ["null", "Null", "NULL", "~"].contains text

/-- The spellings of truth values. -/
def bool? (text : String) : Option Bool :=
  if ["true", "True", "TRUE"].contains text then some true
  else if ["false", "False", "FALSE"].contains text then some false
  else none

/-- The value of some digits of a base, of which there must be one. -/
def natOfBase? (base : Nat) (digits : List Char) : Option Nat :=
  if digits.isEmpty then none
  else digits.foldlM (fun value digit =>
    (Text.hexValue? digit).bind fun d => if d < base then some (value * base + d) else none) 0

/-- The base that digits are written in, and the digits. -/
def splitBase : List Char → Nat × List Char
  | '0' :: 'x' :: digits => (16, digits)
  | '0' :: 'o' :: digits => (8, digits)
  | '0' :: 'b' :: digits => (2, digits)
  | digits => (10, digits)

/-- Decimal digits behind a leading zero. -/
def hasLeadingZero (digits : List Char) : Bool :=
  match digits with
  | '0' :: second :: rest => (second :: rest).all Char.isDigit
  | _ => false

/-- The value of digits behind a sign. -/
def magnitude? (digits : List Char) : Option Nat :=
  if hasLeadingZero digits then none
  else
    let (base, digits) := splitBase digits
    natOfBase? base digits

/-- A whole number with an optional sign. -/
def int? (text : List Char) : Option Int :=
  match text with
  | '+' :: digits => (magnitude? digits).map Int.ofNat
  | '-' :: digits => (magnitude? digits).map fun n => -(n : Int)
  | digits => (magnitude? digits).map Int.ofNat

/-- The parts of an unsigned number with a point or an exponent, or without: its digits, how many of
them stand behind the point, and its power of ten. -/
def decimalParts? (text : List Char) : Option (Nat × Nat × Int) := do
  let integer := text.takeWhile Char.isDigit
  let rest := text.dropWhile Char.isDigit
  let (fraction, rest) := match rest with
    | '.' :: rest => (rest.takeWhile Char.isDigit, rest.dropWhile Char.isDigit)
    | _ => ([], rest)
  if integer.isEmpty && fraction.isEmpty then none
  else
    let (exponent, rest) ← Json.readExponent rest
    if !rest.isEmpty then none
    else
      let power : Int := match exponent with
        | none => 0
        | some (true, digits) => -(Json.natOfDigits digits : Int)
        | some (false, digits) => Json.natOfDigits digits
      some (Json.natOfDigits (integer ++ fraction), fraction.length, power)

/-- The number nearest to a decimal one, unless it is too large. -/
def magnitudeReal? (text : List Char) : Option Decimal.Binary64 := do
  let (digits, places, power) ← decimalParts? text
  Decimal.Binary64.ofDecimal? digits (power - places)

/-- The spellings of infinities and of what is no number; values hold them as null. -/
def isNotFinite (text : String) : Bool :=
  [".inf", ".Inf", ".INF", "+.inf", "+.Inf", "+.INF", "-.inf", "-.Inf", "-.INF", ".nan", ".NaN",
    ".NAN"].contains text

/-- A number that need not be whole, as a value. -/
def real? (text : String) : Option Json :=
  if isNotFinite text then some .null
  else
    let signed (negative : Bool) (digits : List Char) : Option Json :=
      (magnitudeReal? digits).map fun x => .number (.real (x.withSign negative))
    match text.toList with
    | '+' :: digits => signed false digits
    | '-' :: digits => signed true digits
    | digits => signed false digits

/-- What becomes of a text that may be a whole number. -/
inductive Whole where
  /-- A whole number that fits a 64-bit word. -/
  | value (n : Int)
  /-- A whole number that fits two words, which no value can hold. -/
  | tooLarge
  /-- No whole number, or one that is treated like any other number. -/
  | none
  deriving DecidableEq, Repr

/-- The whole number of a text. -/
def whole (text : List Char) : Whole :=
  match int? text with
  | some n =>
    if -(Nat.pow 2 63 : Int) ≤ n ∧ n < Nat.pow 2 64 then .value n
    else if -(Nat.pow 2 127 : Int) ≤ n ∧ n < Nat.pow 2 128 then .tooLarge
    else .none
  | .none => .none

/-- The value of a plain scalar without a tag. -/
def plainValue? (text : String) : Option Json :=
  if text.isEmpty || isNull text then some .null
  else
    match bool? text with
    | some value => some (.bool value)
    | none =>
      match whole text.toList with
      | .value n => some (.number (.whole n))
      | .tooLarge => none
      | .none =>
        let digits := match text.toList with
          | '+' :: digits | '-' :: digits => digits
          | digits => digits
        if hasLeadingZero digits then some (.string text)
        else some ((real? text).getD (.string text))

/-- The value of a scalar. -/
def value? (tag : Option Tag) (text : String) (plain : Bool) : Option Json :=
  match tag with
  | some .application => none
  | some .null => if isNull text then some .null else none
  | some .bool => (bool? text).map .bool
  | some .int =>
    match whole text.toList with
    | .value n => some (.number (.whole n))
    | _ => none
  | some .float => real? text
  | some .garbled | none => if plain then plainValue? text else some (.string text)
  | some .other => some (.string text)

end RequestChain.Yaml.Scalar
