namespace CatalogSite.Url.Punycode

/-!
# Punycode

Code points outside ASCII are written in ASCII as a list of differences: the
characters are inserted in increasing order, and each difference counts the places
passed over since the last insertion. A difference is a number whose digits have
thresholds that adapt to the sizes seen so far.
-/

/-- The first code point that is written as a difference. -/
def initialPoint : Nat := 128

/-- The bias before the first difference. -/
def initialBias : Nat := 72

/-- The letter or digit that stands for a value below 36. -/
def digitChar (value : Nat) : Char :=
  if value < 26 then Char.ofNat (97 + value) else Char.ofNat (22 + value)

/-- The value that a letter or digit stands for. -/
def digitValue? (c : Char) : Option Nat :=
  let n := c.toNat
  if 97 ≤ n ∧ n ≤ 122 then some (n - 97)
  else if 65 ≤ n ∧ n ≤ 90 then some (n - 65)
  else if 48 ≤ n ∧ n ≤ 57 then some (n - 22)
  else none

/-- The threshold of the digit at a position. -/
def threshold (position bias : Nat) : Nat :=
  if position ≤ bias then 1
  else if bias + 26 ≤ position then 26
  else position - bias

/-- A threshold leaves room for a digit above it. -/
theorem threshold_bounds
    (position bias : Nat) :
    1 ≤ threshold position bias ∧ threshold position bias ≤ 26 := by
  unfold threshold
  split
  · omega
  · split <;> omega

/-- Divide a size by 35 until it is small, counting the digits that this saves. -/
def shrink (size saved : Nat) : Nat × Nat :=
  if 455 < size then shrink (size / 35) (saved + 36) else (size, saved)
termination_by size
decreasing_by exact Nat.div_lt_self (by omega) (by omega)

/-- The bias after a difference was written. -/
def adapt
    (difference count : Nat)
    (isFirst : Bool) :
    Nat :=
  let damped := if isFirst then difference / 700 else difference / 2
  let (size, saved) := shrink (damped + damped / count) 0
  saved + 36 * size / (size + 38)

/-- The digits of a difference, from a position on. -/
def encodeNumber (bias position number : Nat) : List Char :=
  let limit := threshold position bias
  if number < limit then
    [digitChar number]
  else
    digitChar (limit + (number - limit) % (36 - limit)) ::
      encodeNumber bias (position + 36) ((number - limit) / (36 - limit))
termination_by number
decreasing_by
  have bounds := threshold_bounds position bias
  calc (number - threshold position bias) / (36 - threshold position bias)
      ≤ number - threshold position bias := Nat.div_le_self _ _
    _ < number := by omega

/-- The state of an encoder. -/
structure Encoder where
  written : List Char
  difference : Nat
  bias : Nat
  count : Nat
  deriving Repr, DecidableEq

/-- Pass over one character while the characters of one code point are written. -/
def Encoder.visit
    (basic point : Nat)
    (encoder : Encoder)
    (c : Char) :
    Encoder :=
  if c.toNat < point then
    { encoder with difference := encoder.difference + 1 }
  else if c.toNat = point then
    { written := encoder.written ++ encodeNumber encoder.bias 36 encoder.difference
      difference := 0
      bias := adapt encoder.difference (encoder.count + 1) (encoder.count = basic)
      count := encoder.count + 1 }
  else
    encoder

/-- Write all characters of some increasing code points. -/
def encodePoints
    (text : List Char)
    (basic : Nat) :
    List Nat → Nat → Encoder → Encoder
  | [], _, encoder => encoder
  | point :: rest, last, encoder =>
      let raised :=
        { encoder with
          difference := encoder.difference + (point - last) * (encoder.count + 1) }
      let visited := text.foldl (Encoder.visit basic point) raised
      encodePoints text basic rest (point + 1)
        { visited with difference := visited.difference + 1 }

/-- The ASCII form of a text. -/
def encode (text : List Char) : List Char :=
  let basic := text.filter (·.toNat < initialPoint)
  let points :=
    ((text.map Char.toNat).filter (initialPoint ≤ ·)).eraseDups.mergeSort
      (· ≤ ·)
  let start := if basic.isEmpty then [] else basic ++ ['-']
  let encoder : Encoder :=
    { written := start
      difference := 0
      bias := initialBias
      count := basic.length }
  (encodePoints text basic.length points initialPoint encoder).written

/-- Read the digits of a difference. -/
def decodeNumber
    (bias : Nat) :
    Nat → Nat → Nat → List Char → Option (Nat × List Char)
  | _, _, _, [] => none
  | position, weight, number, c :: rest => do
      let digit ← digitValue? c
      let number := number + digit * weight
      let limit := threshold position bias
      if digit < limit then some (number, rest)
      else decodeNumber bias (position + 36) (weight * (36 - limit)) number rest

/-- Insert a character at a place. -/
def insertAt
    (place : Nat)
    (c : Char)
    (text : List Char) :
    List Char :=
  text.take place ++ c :: text.drop place

/-- Read differences and insert their characters, with a bound on their number. -/
def decodeAll : Nat → List Char → List Char → Nat → Nat → Nat → Option (List Char)
  | _, [], text, _, _, _ => some text
  | 0, _, _, _, _, _ => none
  | fuel + 1, digits, text, point, place, bias => do
      let (difference, rest) ← decodeNumber bias 36 1 0 digits
      let size := text.length + 1
      let total := place + difference
      let point := point + total / size
      if 0x110000 ≤ point ∨ (0xD800 ≤ point ∧ point ≤ 0xDFFF) then
        none
      else
        let inserted := insertAt (total % size) (Char.ofNat point) text
        decodeAll fuel rest inserted point (total % size + 1)
          (adapt difference size (place = 0))

/-- The characters before the last hyphen and those after it. -/
def splitLastHyphen (text : List Char) : List Char × List Char :=
  let after := (text.reverse.takeWhile (· ≠ '-')).reverse
  ((text.take (text.length - after.length)).dropLast, after)

/-- The text of an ASCII form, if it is one; a hyphen in front separates nothing. -/
def decode? (text : List Char) : Option (List Char) :=
  let (basic, after) := splitLastHyphen text
  let digits := if basic.isEmpty then text else after
  decodeAll text.length digits basic initialPoint 0 initialBias

end CatalogSite.Url.Punycode
