import CatalogSite.Content.Visit
import CatalogSite.Template.Render

namespace CatalogSite.SearchPage

/-!
# The search page

A simple search looks for the words of a text; an advanced search takes rows of
field, comparison and value. Each has a fragment for its form. The results are
rendered one by one and put into a navigation fragment; without results, or
without a search, there is no navigation. Tags of the site's list stay hidden
unless the URL asks for them.
-/

/-- The namespace of the search page. -/
def namespaceName : String := "search"

/-- The key of the line that names a creator. -/
def creatorKey : String := "ResultCreator"

/-- The text that checks a box. -/
def checkedMark (on : Bool) : String :=
  if on then " checked" else ""

/-- A template fragment of the search page. -/
def fragment
    (site : Site)
    (name : String) :
    Except RequestError String :=
  match site.templates.fragment? namespaceName name with
  | some template => .ok template
  | none => .error (.internal (.missingFragment name))

/-- The rows of an advanced search, if there are as many of each part. -/
def filterRows? (url : Url) : Option (List (String × String × String)) :=
  let fields := url.queryValues "field"
  let comparisons := url.queryValues "compare"
  let values := url.queryValues "string"
  if fields.isEmpty ∨ fields.length ≠ comparisons.length ∨
      comparisons.length ≠ values.length then
    none
  else
    some (fields.zip (comparisons.zip values))

/-- The query of an advanced search. -/
def advancedQuery? (url : Url) : Option Query :=
  (filterRows? url).map fun rows =>
    { filters := rows.filterMap fun (field, comparison, value) =>
        Filter.ofRow? field comparison value }

/-- The order that a URL asks for, if it names a column. -/
def orderOf (url : Url) : Option SearchOrder :=
  ((url.queryValue? "sort").bind SortColumn.ofName?).map fun column =>
    { column, descending := url.queryValue? "dir" = some "desc" }

/-- Whether a URL asks for hidden entries too. -/
def showsHidden (url : Url) : Bool :=
  url.queryFlag "nsfw"

/-- Whether a URL asks for the advanced search. -/
def isAdvanced (url : Url) : Bool :=
  url.queryFlag "advanced"

/-- Complete a query by what the site and the URL ask of every search. -/
def configure
    (site : Site)
    (url : Url)
    (query : Query) :
    Query :=
  { query with
    excludedTags := if showsHidden url then query.excludedTags else site.hiddenTags
    matchAny := isAdvanced url && url.queryFlag "any"
    order := orderOf url
    limit := site.config.pageSize }

/-- The line that names a creator, in the words of the translation if it has any. -/
def creatorLine
    (definitions : Definitions)
    (creator : String) :
    String :=
  if creator.isEmpty then
    ""
  else
    let escaped := Text.escape creator
    match definitions.get? creatorKey with
    | some pattern =>
        Template.expand (creatorKey ++ ",creator")
          (.ofList [(creatorKey, pattern), ("creator", .text escaped)])
    | none => escaped

/-- The label of a library: arcade entries are games, all others animations. -/
def libraryLabel
    (definitions : Definitions)
    (library : String) :
    String :=
  if library = "arcade" then (definitions.text? "LibraryGame").getD "game"
  else (definitions.text? "LibraryAnimation").getD "animation"

/-- The definitions of one result, over those of the page. -/
def resultDefinitions
    (imageUrl : String)
    (definitions : Definitions)
    (game : Game) :
    Definitions :=
  let id := Text.escape game.id
  definitions.overlay (.ofTexts [
    ("resultId", id),
    ("resultLogo", logoAddress imageUrl id id ++ "?type=jpg"),
    ("resultTitle", Text.escape game.title),
    ("resultCreator", creatorLine definitions game.creator),
    ("resultPlatform", Text.escape (Text.joinWith "/" game.platforms)),
    ("resultLibrary", libraryLabel definitions game.library),
    ("resultTags", Text.escape (Text.joinWith " - " game.tags))])

/-- The navigation block with all results. -/
def navigation
    (site : Site)
    (definitions : Definitions)
    (games : List Game) :
    Except RequestError String :=
  if games.isEmpty then
    .ok ""
  else do
    let resultTemplate ← fragment site "result"
    let results := games.map fun game =>
      Template.render resultTemplate
        (resultDefinitions site.config.imageUrl definitions game)
    let navigationTemplate ← fragment site "navigation"
    let counted := definitions.insert "searchTotal" (.ofNat games.length)
    .ok (Template.render navigationTemplate
      (counted.insertText "searchResults" (Text.joinWith "\n" results)))

/-- The definitions of the search form. -/
def formDefinitions
    (url : Url)
    (definitions : Definitions) :
    Definitions :=
  let marked :=
    (definitions.insertText "nsfwChecked"
      (checkedMark (showsHidden url))).insertText "anyChecked"
        (checkedMark (url.queryFlag "any"))
  if isAdvanced url then marked
  else
    marked.insertText "searchQuery"
      (Text.escape ((url.queryValue? "query").getD ""))

/-- The query that a URL asks for, if it asks for a search. -/
def requestedQuery? (url : Url) : Option Query :=
  if isAdvanced url then advancedQuery? url
  else (url.queryValue? "query").map Query.ofInput

/-- Search the catalog and render the results. -/
def results
    (visit : Visit)
    (definitions : Definitions) :
    Except RequestError String :=
  match requestedQuery? visit.url with
  | none => .ok ""
  | some query => do
      let games ←
        Catalog.lift
          (visit.catalog.search (configure visit.site visit.url query))
      navigation visit.site definitions games

/-- The definitions for a visit to the search page. -/
def provide
    (visit : Visit)
    (definitions : Definitions) :
    Except RequestError Definitions := do
  let formTemplate ←
    fragment visit.site
      (if isAdvanced visit.url then "advanced" else "simple")
  let navigation ← results visit definitions
  .ok (.ofTexts [
    ("searchInterface",
      Template.render formTemplate (formDefinitions visit.url definitions)),
    ("searchNavigation", navigation)])

end CatalogSite.SearchPage
