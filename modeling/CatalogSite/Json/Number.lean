import CatalogSite.Number.Shortest

namespace CatalogSite

open Number (Binary64)

/-!
# JSON numbers

A number literal is kept as written until a value is asked for. A whole literal
within 64 bits, signed or unsigned, is an integer; every other literal is a
binary value, read by rounding the leading digits that fit an unsigned word and
then scaling by a rounded power of ten.
-/

/-- A number as it is written. -/
structure NumberLiteral where
  negative : Bool
  whole : List Char
  fraction : Option (List Char)
  exponent : Option (Bool × List Char)
  deriving Repr, DecidableEq

/-- The value of a number. -/
inductive NumberValue where
  | integer (value : Int)
  | binary (value : Binary64)
  deriving Repr, DecidableEq

/-- The value of a decimal digit. -/
def digitValue (c : Char) : Nat :=
  c.toNat - '0'.toNat

/-- The natural number that a run of decimal digits denotes. -/
def digitsValue (digits : List Char) : Nat :=
  digits.foldl (fun value digit => 10 * value + digitValue digit) 0

namespace NumberLiteral

/-- The largest unsigned word. -/
def maxWord : Nat := Nat.pow 2 64 - 1

/-- Append digits to a word while it does not overflow, and keep the unread ones. -/
def accumulate : Nat → List Char → Nat × List Char
  | word, [] => (word, [])
  | word, digit :: rest =>
      let next := 10 * word + digitValue digit
      if maxWord < next then (word, digit :: rest) else accumulate next rest

/--
Scale a binary value by a power of ten.

One step multiplies or divides by at most `10 ^ 308`; a longer way down repeats
until nothing is left, and a longer way up is out of range.
-/
def scale : Nat → Binary64 → Int → Option Binary64
  | 0, value, _ => some value
  | steps + 1, value, exponent => do
      if exponent.natAbs ≤ 308 then
        let power ← Binary64.ofNat? false (Nat.pow 10 exponent.natAbs)
        if 0 ≤ exponent then value.scaleUp? power else value.scaleDown? power
      else if value.significand = 0 then
        some value
      else if 0 ≤ exponent then
        none
      else
        let power ← Binary64.ofNat? false (Nat.pow 10 308)
        scale steps (← value.scaleDown? power) (exponent + 308)

/-- The value of a literal read as a binary value, unless it is out of range. -/
def binary? (literal : NumberLiteral) : Option Binary64 := do
  let (word, unread) := accumulate 0 literal.whole
  let fraction := literal.fraction.getD []
  let (word, dropped) := accumulate word fraction
  let shift : Int := unread.length - (fraction.length - dropped.length : Nat)
  let written : Int :=
    match literal.exponent with
    | none => 0
    | some (down, digits) =>
        if down then -(digitsValue digits : Int) else digitsValue digits
  let value ← Binary64.ofNat? false word
  let scaled ← scale 4 value (shift + written)
  some (scaled.withSign literal.negative)

/-- The value of a literal, unless it is out of range. -/
def value? (literal : NumberLiteral) : Option NumberValue :=
  let whole := digitsValue literal.whole
  if literal.fraction.isSome || literal.exponent.isSome then
    literal.binary?.map .binary
  else if literal.negative then
    if 0 < whole ∧ whole ≤ Nat.pow 2 63 then some (.integer (-whole))
    else literal.binary?.map .binary
  else if whole ≤ maxWord then some (.integer whole)
  else literal.binary?.map .binary

/-- The literal of an integer. -/
def ofInt (value : Int) : NumberLiteral where
  negative := value < 0
  whole := Number.natText value.natAbs
  fraction := none
  exponent := none

/-- The text of a literal. -/
def text (literal : NumberLiteral) : List Char :=
  let sign := if literal.negative then ['-'] else []
  let fraction :=
    match literal.fraction with
    | none => []
    | some digits => '.' :: digits
  let exponent :=
    match literal.exponent with
    | none => []
    | some (down, digits) => 'e' :: ((if down then ['-'] else []) ++ digits)
  sign ++ literal.whole ++ fraction ++ exponent

end NumberLiteral

/-- The text of an integer. -/
def integerText (value : Int) : List Char :=
  if value < 0 then '-' :: Number.natText value.natAbs
  else Number.natText value.natAbs

/-- The text that a number is shown as. -/
def NumberValue.text : NumberValue → List Char
  | .integer value => integerText value
  | .binary value => value.text

end CatalogSite
