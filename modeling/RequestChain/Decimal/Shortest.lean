import RequestChain.Decimal.Binary64

/-! # Fewest decimal digits that read back

The text of a binary number is the decimal with the fewest digits among those that round to it, and
of these the nearest. The candidates on a grid of powers of ten are the two neighbours of the exact
value, so each grid is decided in whole numbers.
-/

namespace RequestChain.Decimal

/-- Digits, the first not zero unless it is alone, and the power of ten of the first digit. -/
structure Significant where
  digits : List Char
  power : Int
  deriving DecidableEq, Repr

/-- The decimal digits of a number. -/
def digitsOf (n : Nat) : List Char :=
  Nat.toDigits 10 n

/-- The text without its trailing zeros. -/
def dropTrailingZeros (digits : List Char) : List Char :=
  (digits.reverse.dropWhile (· == '0')).reverse

/-- The power of ten of the first digit of a positive ratio. -/
def leadingPower (numerator denominator : Nat) : Int :=
  let guess : Int := ((digitsOf numerator).length : Int) - (digitsOf denominator).length
  if numerator * Nat.pow 10 (-guess).toNat < denominator * Nat.pow 10 guess.toNat then guess - 1
  else guess

/-- An interval of reals with a value inside: `low / unit < value / unit < high / unit`. -/
structure Neighbourhood where
  low : Nat
  value : Nat
  high : Nat
  unit : Nat
  /-- Whether the ends belong to the interval. -/
  closed : Bool

/-- The reals that round to a number that is not zero. -/
def Binary64.neighbourhood (x : Binary64) : Neighbourhood :=
  let quarter := scale 1 (x.exponent - 2)
  let below := if x.mantissa = Nat.pow 2 52 ∧ minExponent < x.exponent then 1 else 2
  { low := (4 * x.mantissa - below) * quarter.1
    value := 4 * x.mantissa * quarter.1
    high := (4 * x.mantissa + 2) * quarter.1
    unit := quarter.2
    closed := x.mantissa % 2 == 0 }

/-- Whether `digits · 10 ^ power` lies in the interval. -/
def Neighbourhood.contains (near : Neighbourhood) (digits : Nat) (power : Int) : Bool :=
  let point := digits * Nat.pow 10 power.toNat * near.unit
  let ten := Nat.pow 10 (-power).toNat
  if near.closed then near.low * ten ≤ point && point ≤ near.high * ten
  else near.low * ten < point && point < near.high * ten

/-- The point nearest to the value among its neighbours on a grid that lie in the interval. -/
def Neighbourhood.onGrid? (near : Neighbourhood) (power : Int) : Option Nat :=
  let numerator := near.value * Nat.pow 10 (-power).toNat
  let denominator := near.unit * Nat.pow 10 power.toNat
  let below := numerator / denominator
  match near.contains below power, near.contains (below + 1) power with
  | true, true => some (Binary64.roundDiv numerator denominator)
  | true, false => some below
  | false, true => some (below + 1)
  | false, false => none

/-- The grids of `count`, `count + 1`, … digits are tried in turn. -/
def Neighbourhood.search (near : Neighbourhood) (leading : Int) :
    (tries count : Nat) → Nat × Int
  | 0, _ => (0, 0)
  | tries + 1, count =>
    let power := leading - (count - 1 : Nat)
    match near.onGrid? power with
    | some digits => (digits, power)
    | none => near.search leading tries (count + 1)

/-- The fewest significant digits that read back as the number. -/
def Binary64.significant (x : Binary64) : Significant :=
  if x.isZero then ⟨['0'], 0⟩
  else
    let near := x.neighbourhood
    let (point, power) := near.search (leadingPower near.value near.unit) 18 1
    let digits := digitsOf point
    ⟨dropTrailingZeros digits, power + (digits.length - 1 : Nat)⟩

/-- How a number is written from its significant digits. -/
structure NumberFormat where
  /-- The least power of ten that is written positionally. -/
  leastPositional : Int
  /-- The greatest power of ten that is written positionally. -/
  greatestPositional : Int
  /-- What a whole number gets at its end in positional notation. -/
  wholeSuffix : String
  /-- What stands before a positive exponent. -/
  exponentPlus : String

/-- Digits around a point, zeros filled in. -/
def Significant.positional (s : Significant) (wholeSuffix : String) : String :=
  if 0 ≤ s.power then
    let whole := s.power.toNat + 1
    let ahead := s.digits.take whole ++ List.replicate (whole - s.digits.length) '0'
    match s.digits.drop whole with
    | [] => String.ofList ahead ++ wholeSuffix
    | fraction => String.ofList ahead ++ "." ++ String.ofList fraction
  else
    "0." ++ String.ofList (List.replicate ((-s.power).toNat - 1) '0' ++ s.digits)

/-- One digit, the others after a point, and an exponent. -/
def Significant.scientific (s : Significant) (exponentPlus : String) : String :=
  let mantissa := match s.digits with
    | [] => "0"
    | [digit] => String.ofList [digit]
    | digit :: rest => String.ofList (digit :: '.' :: rest)
  let exponent :=
    if 0 ≤ s.power then exponentPlus ++ toString s.power.toNat
    else "-" ++ toString (-s.power).toNat
  mantissa ++ "e" ++ exponent

/-- The text of a number in a format. -/
def Binary64.format (format : NumberFormat) (x : Binary64) : String :=
  let s := x.significant
  let magnitude :=
    if format.leastPositional ≤ s.power ∧ s.power ≤ format.greatestPositional then
      s.positional format.wholeSuffix
    else s.scientific format.exponentPlus
  if x.negative then "-" ++ magnitude else magnitude

end RequestChain.Decimal
