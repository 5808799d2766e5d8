import CatalogSite.Text.Substring
import CatalogSite.Url.Percent

namespace CatalogSite.Url

/-!
# Query pairs

A query lists pairs of a name and a value, joined by `&`. A blank is written as
`+`, and every byte that is no letter, digit or one of `*-._` as a percent
sequence. Reading accepts any text: an empty piece is no pair, and a piece
without `=` has an empty value.
-/

/-- The text of a written name or value. -/
def decodeFormText (text : List Char) : List Char :=
  let spaced := text.map fun c => if c = '+' then ' ' else c
  Text.decodeLossy (percentDecode (Text.utf8 spaced))

/-- The pair that a piece of a query stands for. -/
def decodePair (piece : List Char) : String × String :=
  let (name, value) := Text.splitFirst '=' piece
  (String.ofList (decodeFormText name),
    String.ofList (decodeFormText (value.getD [])))

/-- The pairs of a query, in order. -/
def decodePairs (query : List Char) : List (String × String) :=
  ((query.splitOnP (· == '&')).filter (!·.isEmpty)).map decodePair

/-- Whether a character is written as itself in a name or value. -/
def isFormSafe (c : Char) : Bool :=
  c.isAlphanum || c == '*' || c == '-' || c == '.' || c == '_'

/-- The written form of a name or value. -/
def encodeFormText (text : List Char) : List Char :=
  text.flatMap fun c =>
    if c = ' ' then ['+']
    else if isFormSafe c then [c]
    else (String.utf8EncodeChar c).flatMap percentByte

/-- The written form of a pair. -/
def encodePair (name value : String) : List Char :=
  encodeFormText name.toList ++ '=' :: encodeFormText value.toList

/-- Append a pair to a query. -/
def appendPair
    (query : List Char)
    (name value : String) :
    List Char :=
  if query.isEmpty then encodePair name value
  else query ++ '&' :: encodePair name value

end CatalogSite.Url
