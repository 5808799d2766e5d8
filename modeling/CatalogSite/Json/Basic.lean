import CatalogSite.Json.Number

namespace CatalogSite

/-!
# JSON values

A document is a tree. Numbers stay as written, and a string whose escapes name
half of a surrogate pair has no content: both matter only to a reader that
wants the value. An object with such a string for a key can be passed over, and
cannot be read.
-/

/-- A JSON document. -/
inductive Json where
  | null
  | bool (value : Bool)
  | number (literal : NumberLiteral)
  | string (content : Option String)
  | array (items : List Json)
  | object (members : List (String × Json))
  | misnamed

namespace Json

/-- The object with some members, unless the key of one has no content. -/
def ofMembers : Option (List (String × Json)) → Json
  | some members => .object members
  | none => .misnamed

/-- A string document with the given content. -/
def ofString (text : String) : Json :=
  .string (some text)

/-- A number document with the given integer value. -/
def ofInt (value : Int) : Json :=
  .number (NumberLiteral.ofInt value)

/-- A number document with the given natural value. -/
def ofNat (value : Nat) : Json :=
  ofInt value

end Json

end CatalogSite
