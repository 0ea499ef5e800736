import RequestChain.Text.Utf8

/-! # Positions in the octets of a text

A text is stored as its octets, and a position in it counts octets. A part of a text is taken
between two positions only if both are boundaries: a position inside a character is none.
-/

namespace RequestChain.Text

/-- How many octets a text has. -/
def octetCount (text : List Char) : Nat :=
  (utf8Encode text).length

/-- Whether an octet is one of a character but not its first. -/
def isContinuation (octet : UInt8) : Bool :=
  0x80 ≤ octet.toNat && octet.toNat < 0xc0

/-- Whether a character starts at a position, or the text ends there. -/
def isBoundary (octets : List UInt8) (position : Nat) : Bool :=
  match octets[position]? with
  | some octet => !isContinuation octet
  | none => position == octets.length

/-- The part of a text between two positions, if they are boundaries in this order. -/
def slice? (text : List Char) (start stop : Nat) : Option (List Char) :=
  let octets := utf8Encode text
  if start ≤ stop ∧ isBoundary octets start ∧ isBoundary octets stop then
    some (utf8Decode ((octets.take stop).drop start))
  else none

/-- The position of the first character of a class. -/
def position? (sought : Char → Bool) (text : List Char) : Option Nat :=
  match text.dropWhile fun c => !sought c with
  | [] => none
  | _ :: _ => some (octetCount (text.takeWhile fun c => !sought c))

end RequestChain.Text
