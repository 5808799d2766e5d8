import CatalogSite.Failure
import CatalogSite.Site.Basic

namespace CatalogSite

/-!
# Visits

A visit is a routed request: everything that the content of its answer may depend
on. The logo of a game lies below two directories named for the beginning of its
identifier.
-/

/-- What the content of an answer may depend on. -/
structure Visit where
  site : Site
  catalog : Catalog
  url : Url
  language : String

/-- The failure of a visit for which there is nothing. -/
def Visit.notFound (visit : Visit) : RequestError :=
  .notFound visit.url.text visit.language

/--
The address of a logo.

The directories are the first and the second two bytes of an identifier, empty
where they would split a character or go beyond the end.
-/
def logoAddress (base directoryId fileId : String) : String :=
  let part (first last : Nat) :=
    String.ofList (Text.byteSlice first last directoryId.toList)
  base ++ "/Logos/" ++ part 0 2 ++ "/" ++ part 2 4 ++ "/" ++ fileId ++ ".png"

end CatalogSite
