import RequestChain.Text.FormEncoding

/-! # Numeric addresses

Addresses of four octets are written with one to four numbers, in decimal, octal or hexadecimal; the
last number fills the octets that are left. Addresses of sixteen octets are eight hexadecimal
pieces, a run of which may be left out, and the last two of which may be four decimal octets.
-/

namespace RequestChain.Url

/-- The parts between the separators of a text. -/
def splitAll (separator : Char) : List Char → List (List Char)
  | [] => [[]]
  | c :: rest =>
    if c = separator then [] :: splitAll separator rest
    else
      match splitAll separator rest with
      | [] => [[c]]
      | part :: parts => (c :: part) :: parts

/-- The value of digits of a base. -/
def natOfDigits? (base : Nat) (digits : List Char) : Option Nat :=
  digits.foldlM (fun value digit =>
    (Text.hexValue? digit).bind fun d => if d < base then some (value * base + d) else none) 0

/-- A number of an address in one of three bases. Behind the sign of a base nothing is zero. -/
def addressNumber? : List Char → Option Nat
  | [] => none
  | '0' :: 'x' :: digits | '0' :: 'X' :: digits => natOfDigits? 16 digits
  | '0' :: digit :: digits => natOfDigits? 8 (digit :: digits)
  | digits => natOfDigits? 10 digits

/-- The parts of a name between its points, without the empty one behind a last point. -/
def labels (name : List Char) : List (List Char) :=
  let parts := splitAll '.' name
  if 1 < parts.length && parts.getLast? == some [] then parts.dropLast else parts

/-- A name whose last part is a number is an address. -/
def endsInNumber (name : List Char) : Bool :=
  match (labels name).getLast? with
  | none => false
  | some label =>
    (!label.isEmpty && label.all Char.isDigit) || (addressNumber? label).isSome

/-- The value of an address with one to four numbers: each but the last is an octet. -/
def parseIpv4? (name : List Char) : Option Nat := do
  let numbers ← (labels name).mapM addressNumber?
  let last ← numbers.getLast?
  let octets := numbers.dropLast
  if 3 < octets.length || octets.any (255 < ·) || Nat.pow 256 (4 - octets.length) ≤ last then none
  else
    some (octets.zipIdx.foldl
      (fun value (octet, index) => value + octet * Nat.pow 256 (3 - index)) last)

/-- The four octets of an address. -/
def ipv4Text (address : Nat) : String :=
  ".".intercalate ([3, 2, 1, 0].map fun place => toString (address / Nat.pow 256 place % 256))

/-- An octet in decimal without leading zeros. -/
def octet? (digits : List Char) : Option Nat :=
  match digits with
  | [] => none
  | '0' :: _ :: _ => none
  | _ => (natOfDigits? 10 digits).filter (· ≤ 255)

/-- Two pieces from four decimal octets. -/
def embeddedPieces? (text : List Char) : Option (List Nat) :=
  match (splitAll '.' text).mapM octet? with
  | some [a, b, c, d] => some [a * 256 + b, c * 256 + d]
  | _ => none

/-- The pieces of an address behind those that have been read, and where pieces are left out. The
first number bounds how many are read. -/
def readPieces? : Nat → List Nat → Option Nat → List Char → Option (List Nat × Option Nat)
  | 0, _, _, _ => none
  | _ + 1, pieces, gap, [] => some (pieces, gap)
  | bound + 1, pieces, gap, c :: text =>
    if pieces.length = 8 then none
    else if c = ':' then
      if gap.isSome then none
      else readPieces? bound (pieces ++ [0]) (some (pieces.length + 1)) text
    else
      let digits := ((c :: text).take 4).takeWhile fun d => (Text.hexValue? d).isSome
      match natOfDigits? 16 digits, (c :: text).drop digits.length with
      | none, _ => none
      | some piece, [] =>
        if digits.isEmpty then none else some (pieces ++ [piece], gap)
      | some piece, separator :: rest =>
        if separator = ':' && !digits.isEmpty && !rest.isEmpty then
          readPieces? bound (pieces ++ [piece]) gap rest
        else if separator = '.' && !digits.isEmpty && pieces.length ≤ 6 then
          (embeddedPieces? (c :: text)).map fun last => (pieces ++ last, gap)
        else none

/-- The eight pieces of an address. -/
def parseIpv6? (text : List Char) : Option (List Nat) := do
  let (pieces, gap) ←
    match text with
    | ':' :: ':' :: rest => readPieces? (rest.length + 1) [0] (some 1) rest
    | ':' :: _ | [] | [_] => none
    | _ => readPieces? (text.length + 1) [] none text
  match gap with
  | none => if pieces.length = 8 then some pieces else none
  | some position =>
    if 8 < pieces.length then none
    else
      some (pieces.take position ++ List.replicate (8 - pieces.length) 0 ++ pieces.drop position)

/-- How many zeros a list begins with. -/
def leadingZeros (pieces : List Nat) : Nat :=
  (pieces.takeWhile (· == 0)).length

/-- Pieces with colons between them. -/
def piecesText (pieces : List Nat) : String :=
  ":".intercalate (pieces.map fun piece => String.ofList (Nat.toDigits 16 piece))

/-- The address with its first longest run of at least two zeros left out. -/
def ipv6Text (pieces : List Nat) : String :=
  let runs := (List.range 8).map fun start => leadingZeros (pieces.drop start)
  let longest := runs.foldl max 0
  if longest < 2 then piecesText pieces
  else
    let start := runs.findIdx (· == longest)
    piecesText (pieces.take start) ++ "::" ++ piecesText (pieces.drop (start + longest))

end RequestChain.Url
