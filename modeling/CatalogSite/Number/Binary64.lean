namespace CatalogSite.Number

/-!
# Binary floating-point values of 64 bits

A finite value is a sign and a magnitude `significand * 2 ^ exponent`, held in
lowest grid form: the significand has at most 53 bits, and fewer than 53 only on
the smallest grid. Every operation is exact arithmetic on natural numbers
followed by one rounding to nearest, ties to the even significand.
-/

/-- A finite binary value of 64 bits. -/
structure Binary64 where
  negative : Bool
  significand : Nat
  exponent : Int
  deriving Repr, DecidableEq

namespace Binary64

/-- The exponent of the finest grid. -/
def minExponent : Int := -1074

/-- The exponent of the coarsest grid. -/
def maxExponent : Int := 971

/-- The number of bits of a natural number. -/
def bitLength (n : Nat) : Nat :=
  if n = 0 then 0 else n.log2 + 1

/-- The quotient of two natural numbers, rounded to nearest, a half to even. -/
def roundDiv (numerator denominator : Nat) : Nat :=
  let quotient := numerator / denominator
  let remainder := numerator % denominator
  if 2 * remainder < denominator then quotient
  else if denominator < 2 * remainder then quotient + 1
  else if quotient % 2 = 0 then quotient else quotient + 1

/-- A ratio measured in units of `2 ^ exponent`, as another ratio. -/
def inUnits
    (numerator denominator : Nat)
    (exponent : Int) :
    Nat × Nat :=
  if 0 ≤ exponent then
    (numerator, denominator * Nat.pow 2 exponent.toNat)
  else
    (numerator * Nat.pow 2 (-exponent).toNat, denominator)

/--
The magnitude nearest to a ratio, or nothing when it is beyond the largest one.

The first guess of the grid may be one too fine, which shows in a significand of
54 bits; one coarser grid then suffices.
-/
def ofRatio?
    (negative : Bool)
    (numerator denominator : Nat) :
    Option Binary64 :=
  if numerator = 0 then
    some { negative, significand := 0, exponent := minExponent }
  else
    let guess : Int := (bitLength numerator : Int) - bitLength denominator - 53
    let fine := max guess minExponent
    let onGrid (exponent : Int) : Nat :=
      let (top, bottom) := inUnits numerator denominator exponent
      roundDiv top bottom
    let exponent :=
      let (top, bottom) := inUnits numerator denominator fine
      if Nat.pow 2 53 ≤ top / bottom then fine + 1 else fine
    let rounded := onGrid exponent
    let (significand, exponent) :=
      if rounded = Nat.pow 2 53 then (Nat.pow 2 52, exponent + 1)
      else (rounded, exponent)
    if maxExponent < exponent then none
    else some { negative, significand, exponent }

/-- The magnitude as a ratio. -/
def magnitude (value : Binary64) : Nat × Nat :=
  if 0 ≤ value.exponent then
    (value.significand * Nat.pow 2 value.exponent.toNat, 1)
  else
    (value.significand, Nat.pow 2 (-value.exponent).toNat)

/-- The rounded value of a natural number, zero having the given sign. -/
def ofNat?
    (negative : Bool)
    (n : Nat) :
    Option Binary64 :=
  ofRatio? negative n 1

/-- The rounded product of two magnitudes, with the sign of the first. -/
def scaleUp? (value factor : Binary64) : Option Binary64 :=
  let (top, bottom) := value.magnitude
  let (factorTop, factorBottom) := factor.magnitude
  ofRatio? value.negative (top * factorTop) (bottom * factorBottom)

/-- The rounded quotient of two magnitudes, with the sign of the first. -/
def scaleDown? (value divisor : Binary64) : Option Binary64 :=
  let (top, bottom) := value.magnitude
  let (divisorTop, divisorBottom) := divisor.magnitude
  ofRatio? value.negative (top * divisorBottom) (bottom * divisorTop)

/-- Change the sign. -/
def withSign
    (value : Binary64)
    (negative : Bool) :
    Binary64 :=
  { value with negative }

end Binary64

end CatalogSite.Number
