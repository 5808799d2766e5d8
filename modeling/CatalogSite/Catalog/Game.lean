import CatalogSite.Json.Decode

namespace CatalogSite

/-!
# Catalog entries

An entry of the catalog describes one game or animation. Everything but the
identifier and the title may be missing, which reads as empty.
-/

/-- One entry of the catalog. -/
structure Game where
  id : String
  title : String
  series : String := ""
  developer : String := ""
  publisher : String := ""
  platforms : List String := []
  tags : List String := []
  library : String := ""
  releaseDate : String := ""
  dateAdded : String := ""
  dateModified : String := ""
  originalDescription : String := ""
  gameData : Nat := 0
  deriving Repr, DecidableEq

namespace Game

/-- The developer, or the publisher of a game without one. -/
def creator (game : Game) : String :=
  if game.developer.isEmpty then game.publisher else game.developer

/-- The names of the fields, in order. -/
def fieldNames : List String :=
  ["id", "title", "series", "developer", "publisher", "platforms", "tags",
    "library", "releaseDate", "dateAdded", "dateModified",
    "originalDescription", "gameData"]

/-- Read an entry. -/
def ofJson? (document : Json) : Option Game := do
  let text := Json.orDefault Json.text? ""
  let texts := Json.orDefault Json.texts? []
  match ← document.fields? fieldNames with
  | [id, title, series, developer, publisher, platforms, tags, library, releaseDate,
      dateAdded, dateModified, originalDescription, gameData] =>
      some {
        id := ← Json.required Json.text? id
        title := ← Json.required Json.text? title
        series := ← text series
        developer := ← text developer
        publisher := ← text publisher
        platforms := ← texts platforms
        tags := ← texts tags
        library := ← text library
        releaseDate := ← text releaseDate
        dateAdded := ← text dateAdded
        dateModified := ← text dateModified
        originalDescription := ← text originalDescription
        gameData := ← Json.orDefault (Json.nat? (Nat.pow 2 32 - 1)) 0 gameData
      }
  | _ => none

/-- Read a list of entries. -/
def listOfJson? : Json → Option (List Game) :=
  Json.list? ofJson?

end Game

end CatalogSite
