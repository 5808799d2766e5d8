import CatalogSite.Number.Binary64

namespace CatalogSite.Number

/-!
# Shortest decimal text

A binary value is printed with the fewest decimal digits that still read back to
it: the coarsest decimal grid that meets the interval of reals rounding to the
value is found, and of its points in the interval the one nearest to the value
is taken, the larger of two that are equally near. The text is always
positional, without an exponent.
-/

/-- A decimal magnitude `digits * 10 ^ exponent`. -/
structure Decimal where
  digits : Nat
  exponent : Int
  deriving Repr, DecidableEq

/--
The reals that round to a value, in quarters of its grid unit.

The lower half gap is narrower at a power of two, and the ends belong to the
interval exactly when the significand is even.
-/
structure RoundingInterval where
  low : Nat
  value : Nat
  high : Nat
  closed : Bool
  exponent : Int
  deriving Repr, DecidableEq

/-- The rounding interval of a value that is not zero. -/
def Binary64.roundingInterval (value : Binary64) : RoundingInterval where
  low :=
    if value.significand = Nat.pow 2 52 ∧ Binary64.minExponent < value.exponent then
      4 * value.significand - 1
    else
      4 * value.significand - 2
  value := 4 * value.significand
  high := 4 * value.significand + 2
  closed := value.significand % 2 = 0
  exponent := value.exponent - 2

/-- Numerator and denominator of a power with an integer exponent. -/
def powerRatio
    (base : Nat)
    (exponent : Int) :
    Nat × Nat :=
  if 0 ≤ exponent then (Nat.pow base exponent.toNat, 1)
  else (1, Nat.pow base (-exponent).toNat)

/--
The point of a decimal grid in a rounding interval that is nearest to the value, and
of two equally near ones the larger.
-/
def RoundingInterval.gridPoint?
    (interval : RoundingInterval)
    (exponent : Int) :
    Option Nat :=
  let (unitTop, unitBottom) := powerRatio 2 interval.exponent
  let (gridTop, gridBottom) := powerRatio 10 exponent
  let unit := unitTop * gridBottom
  let grid := gridTop * unitBottom
  let inside (digits : Nat) : Bool :=
    let point := digits * grid
    if interval.closed then
      interval.low * unit ≤ point && point ≤ interval.high * unit
    else
      interval.low * unit < point && point < interval.high * unit
  let below := interval.value * unit / grid
  let above := below + 1
  match inside below, inside above with
  | true, true =>
      if interval.value * unit - below * grid <
          above * grid - interval.value * unit then
        some below
      else
        some above
  | true, false => some below
  | false, true => some above
  | false, false => none

/-- Search the decimal grids from a given one towards finer ones. -/
def RoundingInterval.search
    (interval : RoundingInterval) :
    Nat → Int → Option Decimal
  | 0, _ => none
  | steps + 1, exponent =>
      match interval.gridPoint? exponent with
      | some digits => some { digits, exponent }
      | none => interval.search steps (exponent - 1)

/-- The shortest decimal that reads back as the magnitude of a value. -/
def Binary64.shortest (value : Binary64) : Decimal :=
  if value.significand = 0 then
    { digits := 0, exponent := 0 }
  else
    (value.roundingInterval.search 700 310).getD { digits := 0, exponent := 0 }

/-- The decimal digits of a natural number. -/
def natText (n : Nat) : List Char :=
  Nat.toDigits 10 n

/-- Write a decimal positionally, without a fraction when it is a whole number. -/
def Decimal.positional (decimal : Decimal) : List Char :=
  if 0 ≤ decimal.exponent then
    natText (decimal.digits * Nat.pow 10 decimal.exponent.toNat)
  else
    let places := (-decimal.exponent).toNat
    let whole := decimal.digits / Nat.pow 10 places
    let fraction := natText (decimal.digits % Nat.pow 10 places)
    natText whole ++
      '.' :: (List.replicate (places - fraction.length) '0' ++ fraction)

/-- The shortest positional text of a value, zero keeping its sign. -/
def Binary64.text (value : Binary64) : List Char :=
  let magnitude := value.shortest.positional
  if value.negative then '-' :: magnitude else magnitude

end CatalogSite.Number
