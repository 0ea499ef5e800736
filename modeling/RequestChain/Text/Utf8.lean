/-! # UTF-8

Octets of texts, and texts of octets. Octets that are no text are replaced: every longest piece
that could have begun a character becomes one replacement character.
-/

namespace RequestChain.Text

/-- What stands in a text for octets that are none. -/
def replacementChar : Char := Char.ofNat 0xfffd

/-- The octets of a text. -/
def utf8Encode (text : List Char) : List UInt8 :=
  text.flatMap String.utf8EncodeChar

/-- What a first octet asks for: its own bits, how many octets follow, and the bounds of the next
octet. -/
def leadOctet? (octet : Nat) : Option (Nat × Nat × Nat × Nat) :=
  if octet < 0x80 then some (octet, 0, 0, 0)
  else if 0xc2 ≤ octet ∧ octet ≤ 0xdf then some (octet - 0xc0, 1, 0x80, 0xbf)
  else if octet = 0xe0 then some (0, 2, 0xa0, 0xbf)
  else if octet = 0xed then some (0xd, 2, 0x80, 0x9f)
  else if 0xe1 ≤ octet ∧ octet ≤ 0xef then some (octet - 0xe0, 2, 0x80, 0xbf)
  else if octet = 0xf0 then some (0, 3, 0x90, 0xbf)
  else if 0xf1 ≤ octet ∧ octet ≤ 0xf3 then some (octet - 0xf0, 3, 0x80, 0xbf)
  else if octet = 0xf4 then some (4, 3, 0x80, 0x8f)
  else none

/-- A character of which `missing` more octets are expected, the next of them within bounds. Where
one is missing or out of bounds, the character is replaced and decoding goes on with that octet. -/
def utf8DecodeAfter (code missing low high : Nat) : List UInt8 → List Char
  | [] => if missing = 0 then [] else [replacementChar]
  | octet :: rest =>
    if missing ≠ 0 ∧ low ≤ octet.toNat ∧ octet.toNat ≤ high then
      let code := code * 0x40 + (octet.toNat - 0x80)
      if missing = 1 then Char.ofNat code :: utf8DecodeAfter 0 0 0 0 rest
      else utf8DecodeAfter code (missing - 1) 0x80 0xbf rest
    else
      let replaced := if missing = 0 then [] else [replacementChar]
      match leadOctet? octet.toNat with
      | none => replaced ++ replacementChar :: utf8DecodeAfter 0 0 0 0 rest
      | some (bits, 0, _, _) => replaced ++ Char.ofNat bits :: utf8DecodeAfter 0 0 0 0 rest
      | some (bits, more, low, high) => replaced ++ utf8DecodeAfter bits more low high rest

/-- The text of octets, with replacements where they are none. -/
def utf8Decode (octets : List UInt8) : List Char :=
  utf8DecodeAfter 0 0 0 0 octets

/-- The text of octets, if they are the octets of a text. -/
def utf8Decode? (octets : List UInt8) : Option (List Char) :=
  let text := utf8Decode octets
  if utf8Encode text = octets then some text else none

end RequestChain.Text
