import CatalogSite.Text.Blank
import CatalogSite.Text.Substring

namespace CatalogSite.Cookie

/-!
# Cookies

A cookie header lists pieces separated by semicolons. A piece with a name and an
equals sign is a pair; blanks around name and value do not count, and a piece
without a name is passed over. A cookie is set by its bare pair and a path.
-/

/-- The pair that a piece of a cookie header holds, if it holds one. -/
def pair? (piece : List Char) : Option (List Char × List Char) :=
  match Text.splitFirst '=' (Text.trim piece) with
  | (name, some value) =>
      if (Text.trim name).isEmpty then none
      else some (Text.trim name, Text.trim value)
  | (_, none) => none

/-- The pairs of a cookie header, in order. -/
def pairs (header : List Char) : List (List Char × List Char) :=
  (header.splitOnP (· == ';')).filterMap pair?

/-- The value of the first cookie of a name. -/
def value? (header name : String) : Option String :=
  ((pairs header.toList).find? (·.1 = name.toList)).map fun found =>
    String.ofList found.2

/-- The header text that sets a cookie for all paths. -/
def setting (name value : String) : String :=
  name ++ "=" ++ value ++ "; Path=/"

end CatalogSite.Cookie
