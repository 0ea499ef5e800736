import RequestChain.OrderedMap
import RequestChain.Text.Utf8

/-! # Form encoding

Pairs of texts as one line of `application/x-www-form-urlencoded`, and the pairs of such a line.
Letters and digits of ASCII and four marks stand for themselves, a plus sign stands for a space,
and every other octet is written as a percent sign with two digits.
-/

namespace RequestChain.Text

/-- An upper-case hexadecimal digit. -/
def hexDigitUpper (n : Nat) : Char :=
  (Nat.digitChar n).toUpper

/-- An octet as a percent sign with two digits. -/
def percentOctet (octet : UInt8) : List Char :=
  ['%', hexDigitUpper (octet.toNat / 16), hexDigitUpper (octet.toNat % 16)]

/-- The characters that stand for themselves. -/
def isFormPlain (c : Char) : Bool :=
  c.isAlphanum || c == '*' || c == '-' || c == '.' || c == '_'

/-- How a character is written. -/
def formEncodeChar (c : Char) : List Char :=
  if isFormPlain c then [c]
  else if c = ' ' then ['+']
  else (String.utf8EncodeChar c).flatMap percentOctet

/-- How a text is written. -/
def formEncode (text : List Char) : List Char :=
  text.flatMap formEncodeChar

/-- How a pair is written. -/
def formEncodePair (pair : String × String) : List Char :=
  formEncode pair.1.toList ++ '=' :: formEncode pair.2.toList

/-- Pairs with ampersands between them. -/
def formEncodePairs : List (String × String) → List Char
  | [] => []
  | [pair] => formEncodePair pair
  | pair :: rest => formEncodePair pair ++ '&' :: formEncodePairs rest

/-- The value of a hexadecimal digit. -/
def hexValue? (c : Char) : Option Nat :=
  if c.isDigit then some (c.toNat - 0x30)
  else if 'a' ≤ c ∧ c ≤ 'f' then some (c.toNat - 0x57)
  else if 'A' ≤ c ∧ c ≤ 'F' then some (c.toNat - 0x37)
  else none

/-- The octets of a text in which a percent sign with two digits stands for an octet. -/
def percentDecode : List Char → List UInt8
  | [] => []
  | '%' :: high :: low :: rest =>
    match hexValue? high, hexValue? low with
    | some h, some l => UInt8.ofNat (h * 16 + l) :: percentDecode rest
    | _, _ => String.utf8EncodeChar '%' ++ percentDecode (high :: low :: rest)
  | c :: rest => String.utf8EncodeChar c ++ percentDecode rest

/-- The text of one side of a pair. -/
def formDecode (text : List Char) : String :=
  String.ofList (utf8Decode (percentDecode (text.map fun c => if c = '+' then ' ' else c)))

/-- The text up to a separator and the text behind it. -/
def splitAtFirst (separator : Char) (text : List Char) : List Char × List Char :=
  (text.takeWhile (· ≠ separator), (text.dropWhile (· ≠ separator)).drop 1)

/-- The pairs of a line; empty pieces between ampersands are none. -/
def formDecodePairs (line : List Char) : List (String × String) :=
  (line.splitOn '&').filterMap fun piece =>
    if piece.isEmpty then none
    else
      let (name, value) := splitAtFirst '=' piece
      some (formDecode name, formDecode value)

end RequestChain.Text
