import CatalogSite.Content.Visit

namespace CatalogSite.GamePage

/-!
# The page of one game

The query names a game by its identifier. Its fields become definitions, escaped.
-/

/-- The definitions that describe a game. -/
def describe
    (imageUrl : String)
    (game : Game) :
    Definitions :=
  let title := Text.escape game.title
  let description := Text.escape game.originalDescription
  .ofTexts [
    ("Title", title),
    ("Description", description),
    ("viewId", Text.escape game.id),
    ("viewTitle", title),
    ("viewDescription", description),
    ("viewSeries", Text.escape game.series),
    ("viewDeveloper", Text.escape game.developer),
    ("viewPublisher", Text.escape game.publisher),
    ("viewPlatform", Text.escape (Text.joinWith "/" game.platforms)),
    ("viewTags", Text.escape (Text.joinWith " - " game.tags)),
    ("viewReleaseDate", Text.escape game.releaseDate),
    ("viewDateAdded", Text.escape game.dateAdded),
    ("viewLogo", logoAddress imageUrl game.id (Text.escape game.id))]

/-- The definitions for the game that a visit asks for. -/
def provide (visit : Visit) : Except RequestError Definitions :=
  match visit.url.queryValue? "id" with
  | none => .error visit.notFound
  | some id => do
      match ← Catalog.lift (visit.catalog.find id) with
      | none => .error visit.notFound
      | some game => .ok (describe visit.site.config.imageUrl game)

end CatalogSite.GamePage
