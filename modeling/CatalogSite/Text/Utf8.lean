namespace CatalogSite.Text

/-!
# Bytes of a text

Texts are written in UTF-8. Reading bytes that need not be well-formed replaces
each maximal piece that cannot be continued to a character by one replacement
character. A range of bytes is a part of a text only when both of its ends lie
between characters.
-/

/-- The bytes of a list of characters. -/
def utf8 (text : List Char) : List UInt8 :=
  text.flatMap String.utf8EncodeChar

/-- The character written for bytes that are not well-formed. -/
def replacement : Char :=
  Char.ofNat 0xFFFD

/-- Whether a byte continues a character, between the given bounds. -/
def continues
    (low high : Nat)
    (byte : UInt8) :
    Bool :=
  low ≤ byte.toNat && byte.toNat ≤ high

/-- The bounds of the second byte of a character with three bytes. -/
def secondOfThree (first : Nat) : Nat × Nat :=
  if first = 0xE0 then (0xA0, 0xBF)
  else if first = 0xED then (0x80, 0x9F)
  else (0x80, 0xBF)

/-- The bounds of the second byte of a character with four bytes. -/
def secondOfFour (first : Nat) : Nat × Nat :=
  if first = 0xF0 then (0x90, 0xBF)
  else if first = 0xF4 then (0x80, 0x8F)
  else (0x80, 0xBF)

/-- The number of bytes of a character by its first byte; zero for no character. -/
def sequenceLength (first : UInt8) : Nat :=
  let n := first.toNat
  if n < 0x80 then 1
  else if 0xC2 ≤ n ∧ n ≤ 0xDF then 2
  else if 0xE0 ≤ n ∧ n ≤ 0xEF then 3
  else if 0xF0 ≤ n ∧ n ≤ 0xF4 then 4
  else 0

/-- The lowest six bits of a byte. -/
def lowSix (byte : UInt8) : Nat :=
  byte.toNat % 64

/--
Take the first character of some bytes.

The answer is the character, or nothing for an ill-formed piece, and the number
of further bytes that belong to it.
-/
def takeChar
    (first : UInt8)
    (rest : List UInt8) :
    Option Char × Nat :=
  match sequenceLength first, rest with
  | 1, _ => (some (Char.ofNat first.toNat), 0)
  | 2, second :: _ =>
      if continues 0x80 0xBF second then
        (some (Char.ofNat (first.toNat % 32 * 64 + lowSix second)), 1)
      else
        (none, 0)
  | 3, second :: more =>
      let (low, high) := secondOfThree first.toNat
      if continues low high second then
        match more with
        | third :: _ =>
            if continues 0x80 0xBF third then
              (some (Char.ofNat
                ((first.toNat % 16 * 64 + lowSix second) * 64 +
                  lowSix third)), 2)
            else
              (none, 1)
        | [] => (none, 1)
      else
        (none, 0)
  | 4, second :: more =>
      let (low, high) := secondOfFour first.toNat
      if continues low high second then
        match more with
        | third :: last =>
            if continues 0x80 0xBF third then
              match last with
              | fourth :: _ =>
                  if continues 0x80 0xBF fourth then
                    (some (Char.ofNat
                      (((first.toNat % 8 * 64 + lowSix second) * 64 +
                        lowSix third) * 64 + lowSix fourth)), 3)
                  else
                    (none, 2)
              | [] => (none, 2)
            else
              (none, 1)
        | [] => (none, 1)
      else
        (none, 0)
  | _, _ => (none, 0)

/-- The characters of some bytes, skipping those that an earlier character used. -/
def decodeFrom : Nat → List UInt8 → List (Option Char)
  | _, [] => []
  | skipped + 1, _ :: rest => decodeFrom skipped rest
  | 0, first :: rest =>
      let (c, used) := takeChar first rest
      c :: decodeFrom used rest

/-- The text of some bytes, ill-formed pieces being replaced. -/
def decodeLossy (bytes : List UInt8) : List Char :=
  (decodeFrom 0 bytes).map (·.getD replacement)

/-- The text of some bytes, if they are well-formed. -/
def decode? (bytes : List UInt8) : Option (List Char) :=
  (decodeFrom 0 bytes).mapM id

/-- Drop a number of bytes from the front, if they are whole characters. -/
def dropBytes? : Nat → List Char → Option (List Char)
  | 0, text => some text
  | _ + 1, [] => none
  | count + 1, c :: rest =>
      if c.utf8Size ≤ count + 1 then
        dropBytes? (count + 1 - c.utf8Size) rest
      else
        none
termination_by _ text => text.length

/-- Take a number of bytes from the front, if they are whole characters. -/
def takeBytes? : Nat → List Char → Option (List Char)
  | 0, _ => some []
  | _ + 1, [] => none
  | count + 1, c :: rest =>
      if c.utf8Size ≤ count + 1 then
        (takeBytes? (count + 1 - c.utf8Size) rest).map (c :: ·)
      else
        none
termination_by _ text => text.length

/--
The characters between two byte positions, or nothing when there is no such part.
-/
def byteSlice
    (first last : Nat)
    (text : List Char) :
    List Char :=
  (((dropBytes? first text).bind (takeBytes? (last - first))).getD [])

end CatalogSite.Text
