import CatalogSite.Text.Utf8

namespace CatalogSite.Url

/-!
# Percent encoding

A byte may be written as `%` and two hexadecimal digits. Which characters are
written so depends on the part of the URL; characters outside ASCII always are.
-/

/-- A hexadecimal digit in upper case. -/
def hexDigitUpper (n : Nat) : Char :=
  (Nat.digitChar n).toUpper

/-- The written form of a byte. -/
def percentByte (byte : UInt8) : List Char :=
  ['%', hexDigitUpper (byte.toNat / 16), hexDigitUpper (byte.toNat % 16)]

/-- Whether a character has to be encoded wherever it stands. -/
def isControl (c : Char) : Bool :=
  c.toNat < 0x20 || 0x7F ≤ c.toNat

/-- The characters encoded in a fragment. -/
def encodedInFragment (c : Char) : Bool :=
  isControl c || c == ' ' || c == '"' || c == '<' || c == '>' || c.toNat == 0x60

/-- The characters encoded in a path. -/
def encodedInPath (c : Char) : Bool :=
  encodedInFragment c || c == '#' || c == '?' || c == '\x7b' || c == '\x7d'

/-- The characters encoded in a user name or a password. -/
def encodedInUserinfo (c : Char) : Bool :=
  encodedInPath c || c == '/' || c == ':' || c == ';' || c == '=' || c == '@' ||
    c == '[' || c == '\\' || c == ']' || c == '^' || c == '|'

/-- The characters encoded in a query. -/
def encodedInQuery (c : Char) : Bool :=
  isControl c || c == ' ' || c == '"' || c == '#' || c == '<' || c == '>'

/-- The characters encoded in the query of a scheme with known rules. -/
def encodedInSpecialQuery (c : Char) : Bool :=
  encodedInQuery c || c == '\''

/-- Encode the characters that satisfy a test. -/
def percentEncode
    (encoded : Char → Bool)
    (text : List Char) :
    List Char :=
  text.flatMap fun c =>
    if encoded c then (String.utf8EncodeChar c).flatMap percentByte else [c]

/-- The value of a byte as a hexadecimal digit. -/
def hexValue? (byte : UInt8) : Option Nat :=
  let n := byte.toNat
  if 48 ≤ n ∧ n ≤ 57 then some (n - 48)
  else if 97 ≤ n ∧ n ≤ 102 then some (n - 87)
  else if 65 ≤ n ∧ n ≤ 70 then some (n - 55)
  else none

/-- The byte that two hexadecimal digits write. -/
def hexPair? (high low : UInt8) : Option UInt8 := do
  let high ← hexValue? high
  let low ← hexValue? low
  some (UInt8.ofNat (16 * high + low))

/-- Decode every complete percent sequence; anything else stays as it is. -/
def percentDecode : List UInt8 → List UInt8
  | 37 :: high :: low :: rest =>
      match hexPair? high low with
      | some byte => byte :: percentDecode rest
      | none => 37 :: percentDecode (high :: low :: rest)
  | byte :: rest => byte :: percentDecode rest
  | [] => []

end CatalogSite.Url
