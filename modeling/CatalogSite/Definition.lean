import CatalogSite.Dictionary
import CatalogSite.Json.Decode
import CatalogSite.Text.Escape

namespace CatalogSite

/-!
# Definitions

A definition gives a symbolic key its text in one namespace and language. The
values are texts or numbers; a number turns into text only when it is
substituted. Translations are escaped once, when they are loaded.
-/

/-- The value of a definition. -/
inductive Definition where
  | text (content : String)
  | number (value : NumberValue)
  deriving Repr, DecidableEq

namespace Definition

/-- The text that is substituted for a value. -/
def asText : Definition → String
  | .text content => content
  | .number value => String.ofList value.text

/-- Whether a value is the empty text. -/
def isEmpty : Definition → Bool
  | .text content => content.isEmpty
  | .number _ => false

/-- A whole number as a value. -/
def ofNat (value : Nat) : Definition :=
  .number (.integer value)

/-- Escape a text; a number stays as it is. -/
def escaped : Definition → Definition
  | .text content => .text (Text.escape content)
  | .number value => .number value

/-- Read a value: a text or a number, and nothing else. -/
def ofJson? : Json → Option Definition
  | .string content => content.map .text
  | .number literal => literal.value?.map .number
  | _ => none

end Definition

/-- The definitions of one namespace. -/
abbrev Definitions :=
  Dictionary Definition

namespace Dictionary

/-- The text of a key, if it is defined. -/
def text?
    (definitions : Definitions)
    (key : String) :
    Option String :=
  (definitions.get? key).map Definition.asText

/-- Write a text under a key. -/
def insertText
    (definitions : Definitions)
    (key content : String) :
    Definitions :=
  definitions.insert key (.text content)

/-- The definitions that a list of texts writes. -/
def ofTexts (entries : List (String × String)) : Definitions :=
  ofList (entries.map fun entry => (entry.1, .text entry.2))

/-- Escape every text. -/
def escaped (definitions : Definitions) : Definitions :=
  definitions.map Definition.escaped

end Dictionary

/-- Read definitions from a document. -/
def Definitions.ofJson? : Json → Option Definitions :=
  Json.dictionary? Definition.ofJson?

end CatalogSite
