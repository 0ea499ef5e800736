import RequestChain.Text.Case
import RequestChain.Text.FormEncoding
import RequestChain.Url.Address

/-! # Domains

A domain is brought into one form: percent signs are resolved, letters become small, wide forms of
ASCII become ASCII, and invisible characters are dropped. Some characters must not be left in it,
and a label that announces an encoding of other characters must hold one.
-/

namespace RequestChain.Url

/-- Characters that leave no trace in a domain. -/
def ignoredInDomains : Text.CodeRanges :=
  [(0xad, 0xad), (0x34f, 0x34f), (0x180b, 0x180d), (0x180f, 0x180f), (0x200b, 0x200b),
   (0x2060, 0x2060), (0x2064, 0x2064), (0xfe00, 0xfe0f), (0xfeff, 0xfeff), (0xe0100, 0xe01ef)]

/-- Spaces besides that of ASCII. -/
def wideSpaces : Text.CodeRanges :=
  [(0xa0, 0xa0), (0x2000, 0x200a), (0x202f, 0x202f), (0x205f, 0x205f), (0x3000, 0x3000)]

/-- Characters outside of ASCII that no domain can hold: controls, separators, private ones and
replacements. -/
def refusedInDomains : Text.CodeRanges :=
  [(0x80, 0x9f), (0x200e, 0x200f), (0x2028, 0x202e), (0x2061, 0x2063), (0x2065, 0x206f),
   (0xe000, 0xf8ff), (0xfdd0, 0xfdef), (0xfff0, 0xffff), (0x1fffe, 0x1ffff), (0x2fffe, 0x2ffff),
   (0xe0000, 0xe00ff), (0xe01f0, 0x10ffff)]

/-- Characters of ASCII that no domain can hold. -/
def isForbiddenInDomains (c : Char) : Bool :=
  c.toNat ≤ 0x20 || c.toNat == 0x7f ||
    ['#', '%', '/', ':', '<', '>', '?', '@', '[', '\\', ']', '^', '|'].contains c

/-- The form that a character of a domain is brought into. -/
def mapDomainChar (c : Char) : List Char :=
  let code := c.toNat
  if ignoredInDomains.contains code then []
  else if wideSpaces.contains code then [' ']
  else if code = 0x3002 ∨ code = 0xff61 then ['.']
  else if 0xff01 ≤ code ∧ code ≤ 0xff5e then [(Char.ofNat (code - 0xfee0)).toLower]
  else Text.lowerChar c

namespace Punycode

/-- The value of a digit of base 36: letters come before digits. -/
def digit? (c : Char) : Option Nat :=
  if c.isDigit then some (c.toNat - 0x30 + 26)
  else if c.isAlpha then some (c.toLower.toNat - 0x61)
  else none

/-- The threshold of the digit at a place, where places count by 36. -/
def threshold (place bias : Nat) : Nat :=
  min 26 (max 1 (place - bias))

/-- Divides a delta by 35 until it is small. -/
def adaptWithin : Nat → Nat → Nat → Nat
  | 0, delta, shift => shift + 36 * delta / (delta + 38)
  | rounds + 1, delta, shift =>
    if 455 < delta then adaptWithin rounds (delta / 35) (shift + 36)
    else shift + 36 * delta / (delta + 38)

/-- The bias behind a delta, when so many characters are known. -/
def adapt (delta count : Nat) (isFirst : Bool) : Nat :=
  let scaled := if isFirst then delta / 700 else delta / 2
  adaptWithin 16 (scaled + scaled / count) 0

/-- A delta of digits whose weights depend on the bias, and what is behind it. -/
def readDelta (bias : Nat) : (place weight delta : Nat) → List Char → Option (Nat × List Char)
  | _, _, _, [] => none
  | place, weight, delta, c :: rest => do
    let digit ← digit? c
    let delta := delta + digit * weight
    let limit := threshold place bias
    if 0xffffffff < delta then none
    else if digit < limit then some (delta, rest)
    else readDelta bias (place + 36) (weight * (36 - limit)) delta rest

/-- The characters that deltas insert among those that are known. The first number bounds how many
are read. -/
def insertAll : Nat → (code index bias : Nat) → List Char → List Char → Option (List Char)
  | 0, _, _, _, _, _ => none
  | _ + 1, _, _, _, known, [] => some known
  | bound + 1, code, index, bias, known, text => do
    let (delta, rest) ← readDelta bias 36 1 0 text
    let total := index + delta
    let count := known.length + 1
    let code := code + total / count
    if !code.isValidChar then none
    else
      let position := total % count
      insertAll bound code (position + 1) (adapt delta count (index == 0))
        (known.take position ++ Char.ofNat code :: known.drop position) rest

/-- The characters that a text of ASCII encodes: those in front of its last hyphen as they are, with
others among them. -/
def decode? (text : List Char) : Option (List Char) :=
  let parts := splitAll '-' text
  let known := (List.intercalate ['-'] parts.dropLast)
  let deltas := if parts.length ≤ 1 then text else parts.getLastD []
  insertAll (deltas.length + 1) 0x80 0 72 known deltas

end Punycode

/-- What announces an encoded label. -/
def encodedMark : List Char := ['x', 'n', '-', '-']

/-- Whether a label that announces an encoding holds one: of a text that has a character outside of
ASCII and is in its final form. -/
def isProperLabel (label : List Char) : Bool :=
  if encodedMark.isPrefixOf label then
    match Punycode.decode? (label.drop 4) with
    | none => false
    | some decoded =>
      decoded.any (0x7f < ·.toNat) &&
        decoded.all fun c => mapDomainChar c == [c] && !refusedInDomains.contains c.toNat
  else true

/-- The final form of the name of a host, unless it is no domain. -/
def domain? (name : List Char) : Option (List Char) :=
  let mapped := (Text.utf8Decode (Text.percentDecode name)).flatMap mapDomainChar
  if mapped.any (fun c => isForbiddenInDomains c || refusedInDomains.contains c.toNat) then none
  else if (splitAll '.' mapped).all isProperLabel then some mapped
  else none

end RequestChain.Url
