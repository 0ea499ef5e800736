/-! # Binary floating point with 53 significant bits

A finite number is a sign, a whole mantissa and a power of two. Values are rounded to the nearest
representable one, and a tie goes to the even mantissa. All arithmetic is exact on `Nat` up to the
one rounding, so the laws of rounding are laws of division.
-/

namespace RequestChain.Decimal

/-- The finite number `± mantissa · 2 ^ exponent`, in the form `ofRatio?` gives it. -/
structure Binary64 where
  negative : Bool
  mantissa : Nat
  exponent : Int
  deriving DecidableEq, Repr, Inhabited

namespace Binary64

/-- The exponent of the smallest numbers. -/
def minExponent : Int := -1074

/-- The exponent of the largest numbers. -/
def maxExponent : Int := 971

/-- Zero of either sign. -/
def zero (negative : Bool) : Binary64 := ⟨negative, 0, minExponent⟩

/-- Whether the number is zero. -/
def isZero (x : Binary64) : Bool := x.mantissa == 0

/-- The number with the given sign. -/
def withSign (negative : Bool) (x : Binary64) : Binary64 := { x with negative }

/-- `numerator / denominator` to the nearest whole number, a tie to the even one. -/
def roundDiv (numerator denominator : Nat) : Nat :=
  let quotient := numerator / denominator
  let twice := 2 * (numerator % denominator)
  if denominator < twice ∨ (twice = denominator ∧ quotient % 2 = 1) then quotient + 1
  else quotient

/-- `n · 2 ^ e` as a ratio of whole numbers. -/
def scale (n : Nat) (e : Int) : Nat × Nat :=
  (n * Nat.pow 2 e.toNat, Nat.pow 2 (-e).toNat)

/-- The exponent that leaves 53 significant bits of the ratio, or the least one. -/
def exponentOf (numerator denominator : Nat) : Int :=
  let guess : Int := (numerator.log2 : Int) - denominator.log2 - 52
  let scaled := numerator * Nat.pow 2 (-guess).toNat
  let least := Nat.pow 2 52 * (denominator * Nat.pow 2 guess.toNat)
  let exponent := if scaled < least then guess - 1 else guess
  max exponent minExponent

/-- The nearest number to a ratio, and nothing when it is too large. -/
def ofRatio? (numerator denominator : Nat) : Option Binary64 :=
  if numerator = 0 then some (zero false)
  else
    let exponent := exponentOf numerator denominator
    let rounded :=
      roundDiv (numerator * Nat.pow 2 (-exponent).toNat) (denominator * Nat.pow 2 exponent.toNat)
    let (mantissa, exponent) :=
      if rounded = Nat.pow 2 53 then (Nat.pow 2 52, exponent + 1) else (rounded, exponent)
    if exponent ≤ maxExponent then some ⟨false, mantissa, exponent⟩ else none

/-- The magnitude as a ratio of whole numbers. -/
def ratio (x : Binary64) : Nat × Nat :=
  scale x.mantissa x.exponent

/-- The rounded product of the magnitudes. -/
def mul? (x y : Binary64) : Option Binary64 :=
  let (xNumerator, xDenominator) := x.ratio
  let (yNumerator, yDenominator) := y.ratio
  ofRatio? (xNumerator * yNumerator) (xDenominator * yDenominator)

/-- The rounded quotient of the magnitudes; the divisor is not zero. -/
def div? (x y : Binary64) : Option Binary64 :=
  let (xNumerator, xDenominator) := x.ratio
  let (yNumerator, yDenominator) := y.ratio
  ofRatio? (xNumerator * yDenominator) (xDenominator * yNumerator)

/-- The nearest number to `digits · 10 ^ power`, which is not computed where it is beyond doubt too
large or next to nothing. -/
def ofDecimal? (digits : Nat) (power : Int) : Option Binary64 :=
  if digits = 0 then some (zero false)
  else if 400 < power then none
  else if power + digits.log2 < -400 then some (zero false)
  else ofRatio? (digits * Nat.pow 10 power.toNat) (Nat.pow 10 (-power).toNat)

/-- The word `digits`, rounded, and then scaled by powers of ten that are rounded themselves: one
multiplication for a power up to 308, one division for a power down to -308, and further divisions
by the 308th power below that. A number beyond the largest is refused. -/
def scaleDecimal? (digits : Nat) (power : Int) : Option Binary64 := do
  let value ← ofRatio? digits 1
  if 0 ≤ power then
    if power ≤ 308 then value.mul? (← ofDecimal? 1 power)
    else if value.isZero then some value
    else none
  else
    let rec down : Nat → Binary64 → Nat → Option Binary64
      | 0, _, _ => some (zero false)
      | rounds + 1, value, tens => do
        if tens ≤ 308 then value.div? (← ofDecimal? 1 tens)
        else if value.isZero then some value
        else down rounds (← value.div? (← ofDecimal? 1 308)) (tens - 308)
    down 4 value (-power).toNat

end Binary64

end RequestChain.Decimal
