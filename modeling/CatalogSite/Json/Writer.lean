import CatalogSite.Json.Basic

namespace CatalogSite.Json

/-!
# Writing JSON text

The compact form: no blanks between tokens, and in strings only the quote, the
backslash and the control characters are escaped.
-/

/-- A hexadecimal digit in lower case. -/
def hexDigitChar (n : Nat) : Char :=
  (Nat.digitChar n)

/-- The written form of one character inside a string. -/
def writeChar (c : Char) : List Char :=
  match c with
  | '"' => ['\\', '"']
  | '\\' => ['\\', '\\']
  | '\x08' => ['\\', 'b']
  | '\x0c' => ['\\', 'f']
  | '\n' => ['\\', 'n']
  | '\r' => ['\\', 'r']
  | '\t' => ['\\', 't']
  | _ =>
    if c.toNat < 0x20 then
      ['\\', 'u', '0', '0', hexDigitChar (c.toNat / 16),
        hexDigitChar (c.toNat % 16)]
    else
      [c]

/-- The written form of a string. -/
def writeString (text : String) : List Char :=
  '"' :: (text.toList.flatMap writeChar ++ ['"'])

mutual

/-- The written form of a document. -/
def write : Json → List Char
  | .null => ['n', 'u', 'l', 'l']
  | .bool true => ['t', 'r', 'u', 'e']
  | .bool false => ['f', 'a', 'l', 's', 'e']
  | .number literal => literal.text
  | .string content => writeString (content.getD "")
  | .array items => '[' :: (writeItems items ++ [']'])
  | .object members => '\x7b' :: (writeMembers members ++ ['\x7d'])
  | .misnamed => ['\x7b', '\x7d']

/-- The written items of an array. -/
def writeItems : List Json → List Char
  | [] => []
  | [item] => write item
  | item :: next :: rest => write item ++ ',' :: writeItems (next :: rest)

/-- The written members of an object. -/
def writeMembers : List (String × Json) → List Char
  | [] => []
  | [(key, value)] => writeString key ++ ':' :: write value
  | (key, value) :: next :: rest =>
      writeString key ++ ':' :: (write value ++ ',' :: writeMembers (next :: rest))

end

/-- The compact text of a document. -/
def text (document : Json) : String :=
  String.ofList document.write

end CatalogSite.Json
