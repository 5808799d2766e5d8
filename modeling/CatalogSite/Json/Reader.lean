import CatalogSite.Json.Basic

namespace CatalogSite.Json

/-!
# Reading JSON text

The reader is strict: no comments, no trailing commas, no leading zeros, no
control characters inside strings, and nothing but blanks after the document.
Each reading step takes the remaining characters and returns what it read with
the characters that follow.
-/

/-- The characters that may stand between tokens. -/
def isSpace (c : Char) : Bool :=
  c == ' ' || c == '\t' || c == '\n' || c == '\r'

/-- Skip the characters that may stand between tokens. -/
def skipSpace (text : List Char) : List Char :=
  text.dropWhile isSpace

/-- The value of a hexadecimal digit. -/
def hexDigit? (c : Char) : Option Nat :=
  let n := c.toNat
  if '0'.toNat ≤ n ∧ n ≤ '9'.toNat then some (n - '0'.toNat)
  else if 'a'.toNat ≤ n ∧ n ≤ 'f'.toNat then some (n - 'a'.toNat + 10)
  else if 'A'.toNat ≤ n ∧ n ≤ 'F'.toNat then some (n - 'A'.toNat + 10)
  else none

/-- The code unit named by four hexadecimal digits. -/
def codeUnit? (first second third fourth : Char) : Option Nat := do
  let a ← hexDigit? first
  let b ← hexDigit? second
  let c ← hexDigit? third
  let d ← hexDigit? fourth
  some (((16 * a + b) * 16 + c) * 16 + d)

/-- One written element of a string. -/
inductive StringUnit where
  | char (c : Char)
  | half (unit : Nat)
  deriving Repr, DecidableEq

/-- The element that a code unit stands for. -/
def StringUnit.ofCodeUnit (unit : Nat) : StringUnit :=
  if 0xD800 ≤ unit ∧ unit ≤ 0xDFFF then .half unit else .char (Char.ofNat unit)

/-- The character that a letter after a backslash stands for. -/
def escaped? : Char → Option Char
  | '"' => some '"'
  | '\\' => some '\\'
  | '/' => some '/'
  | 'b' => some '\x08'
  | 'f' => some '\x0c'
  | 'n' => some '\n'
  | 'r' => some '\r'
  | 't' => some '\t'
  | _ => none

/-- Read the elements of a string up to its closing quote. -/
def readUnits : List Char → Option (List StringUnit × List Char)
  | [] => none
  | '"' :: rest => some ([], rest)
  | '\\' :: 'u' :: a :: b :: c :: d :: rest => do
      let unit ← codeUnit? a b c d
      let (units, after) ← readUnits rest
      some (.ofCodeUnit unit :: units, after)
  | '\\' :: letter :: rest => do
      let c ← escaped? letter
      let (units, after) ← readUnits rest
      some (.char c :: units, after)
  | c :: rest =>
      if c.toNat < 0x20 ∨ c = '\\' then
        none
      else do
        let (units, after) ← readUnits rest
        some (.char c :: units, after)

/-- The characters of a string, unless half of a surrogate pair is left alone. -/
def joinUnits : List StringUnit → Option (List Char)
  | [] => some []
  | .char c :: rest => (joinUnits rest).map (c :: ·)
  | .half high :: .half low :: rest =>
      if high < 0xDC00 ∧ 0xDC00 ≤ low then
        let c := Char.ofNat (0x10000 + (high - 0xD800) * 0x400 + (low - 0xDC00))
        (joinUnits rest).map (c :: ·)
      else
        none
  | .half _ :: _ => none

/-- Read a string after its opening quote. -/
def readString (text : List Char) : Option (Option String × List Char) := do
  let (units, rest) ← readUnits text
  some ((joinUnits units).map String.ofList, rest)

/-- Read the exponent of a number, if there is one. -/
def readExponent
    (text : List Char) :
    Option (Option (Bool × List Char) × List Char) :=
  let digitsOf (down : Bool) (rest : List Char) :=
    match rest.takeWhile Char.isDigit with
    | [] => none
    | digits => some (some (down, digits), rest.dropWhile Char.isDigit)
  match text with
  | 'e' :: '-' :: rest | 'E' :: '-' :: rest => digitsOf true rest
  | 'e' :: '+' :: rest | 'E' :: '+' :: rest => digitsOf false rest
  | 'e' :: rest | 'E' :: rest => digitsOf false rest
  | _ => some (none, text)

/-- Read the fraction of a number, if there is one. -/
def readFraction (text : List Char) : Option (Option (List Char) × List Char) :=
  match text with
  | '.' :: rest =>
      match rest.takeWhile Char.isDigit with
      | [] => none
      | digits => some (some digits, rest.dropWhile Char.isDigit)
  | _ => some (none, text)

/-- Read a number. -/
def readNumber (text : List Char) : Option (NumberLiteral × List Char) := do
  let (negative, body) :=
    match text with
    | '-' :: rest => (true, rest)
    | _ => (false, text)
  let whole := body.takeWhile Char.isDigit
  let rest := body.dropWhile Char.isDigit
  match whole with
  | [] => none
  | '0' :: _ :: _ => none
  | _ =>
    let (fraction, rest) ← readFraction rest
    let (exponent, rest) ← readExponent rest
    some ({ negative, whole, fraction, exponent }, rest)

/-- Read a fixed word. -/
def readWord
    (word : String)
    (value : Json)
    (text : List Char) :
    Option (Json × List Char) :=
  let expected := word.toList
  if text.take expected.length = expected then
    some (value, text.drop expected.length)
  else
    none

mutual

/-- Read one value, with a bound on the number of nested steps. -/
def readValue : Nat → List Char → Option (Json × List Char)
  | 0, _ => none
  | fuel + 1, text =>
      match skipSpace text with
      | 'n' :: rest => readWord "null" .null ('n' :: rest)
      | 't' :: rest => readWord "true" (.bool true) ('t' :: rest)
      | 'f' :: rest => readWord "false" (.bool false) ('f' :: rest)
      | '"' :: rest => do
          let (content, after) ← readString rest
          some (.string content, after)
      | '[' :: rest =>
          match skipSpace rest with
          | ']' :: after => some (.array [], after)
          | _ => do
              let (items, after) ← readItems fuel rest
              some (.array items, after)
      | '\x7b' :: rest =>
          match skipSpace rest with
          | '\x7d' :: after => some (.object [], after)
          | _ => do
              let (members, after) ← readMembers fuel rest
              some (.ofMembers members, after)
      | other => do
          let (literal, after) ← readNumber other
          some (.number literal, after)

/-- Read the items of an array, up to its closing bracket. -/
def readItems : Nat → List Char → Option (List Json × List Char)
  | 0, _ => none
  | fuel + 1, text => do
      let (item, rest) ← readValue fuel text
      match skipSpace rest with
      | ',' :: rest =>
          let (items, after) ← readItems fuel rest
          some (item :: items, after)
      | ']' :: after => some ([item], after)
      | _ => none

/--
Read the members of an object, up to its closing brace.

If the key of one has no content there are no members, but the reading goes on.
-/
def readMembers :
    Nat → List Char → Option (Option (List (String × Json)) × List Char)
  | 0, _ => none
  | fuel + 1, text =>
      match skipSpace text with
      | '"' :: rest => do
          let (key, rest) ← readString rest
          match skipSpace rest with
          | ':' :: rest =>
              let (value, rest) ← readValue fuel rest
              let member := key.map fun key => (key, value)
              match skipSpace rest with
              | ',' :: rest =>
                  let (members, after) ← readMembers fuel rest
                  some (member.bind fun member => members.map (member :: ·), after)
              | '\x7d' :: after => some (member.map fun member => [member], after)
              | _ => none
          | _ => none
      | _ => none

end

/-- The document that a text holds, if it is well-formed. -/
def ofText? (text : String) : Option Json :=
  let chars := text.toList
  match readValue (2 * chars.length + 2) chars with
  | some (value, rest) => if (skipSpace rest).isEmpty then some value else none
  | none => none

end CatalogSite.Json
