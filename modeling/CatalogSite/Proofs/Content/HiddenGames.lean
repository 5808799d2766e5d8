import CatalogSite.Proofs.Catalog.Selection
import CatalogSite.Proofs.Site.CatalogUse

namespace CatalogSite

/-!
# Hidden games

A site hides the games that carry one of its tags, unless the URL asks for them. A
search drops them before it matches, orders, counts and cuts anything, so that it
finds the same games in a catalog that never had them. What the search page shows
depends on the catalog through that search alone, hence the whole answer is the
same for both catalogs.
-/

/-- The games that carry none of some tags. -/
def visibleGames
    (tags : List String)
    (games : List Game) :
    List Game :=
  games.filter fun game => ¬game.Carries tags

namespace Query

/-- Selecting among the visible games is selecting among all of them. -/
theorem filter_selects_visibleGames
    (query : Query)
    (games : List Game) :
    (visibleGames query.excludedTags games).filter query.selects =
      games.filter query.selects := by
  rw [visibleGames, List.filter_filter]
  apply List.filter_congr
  intro game _
  by_cases carries : game.Carries query.excludedTags
  · simp [selects, carriesTag_iff.mpr carries]
  · simp [carries]

/-- A query has the same results among the visible games as among all of them. -/
theorem run_visibleGames
    (query : Query)
    (games : List Game) :
    query.run (visibleGames query.excludedTags games) =
      query.run games := by
  unfold run
  rw [query.filter_selects_visibleGames games]

end Query

/-- Two catalogs give the same results to every query that excludes some tags. -/
def Catalog.SearchAlike
    (tags : List String)
    (first second : Catalog) :
    Prop :=
  ∀ query : Query,
    query.excludedTags = tags →
    first.search query = second.search query

/-- Leaving hidden games out changes no search that excludes their tags. -/
theorem GameStore.searchAlike_visibleGames
    (tags : List String)
    (games : List Game) :
    Catalog.SearchAlike tags
      (ofGames (visibleGames tags games)).catalog
      (ofGames games).catalog := by
  intro query excluded
  subst excluded
  exact congrArg Except.ok (query.run_visibleGames games)

namespace SearchPage

variable {visit : Visit} {other : Catalog}

/-- The rendered results depend on searches that exclude the tags of the site. -/
theorem results_withCatalog
    (noHidden : showsHidden visit.url = false)
    (alike :
      Catalog.SearchAlike visit.site.hiddenTags other visit.catalog)
    (definitions : Definitions) :
    results (visit.withCatalog other) definitions =
      results visit definitions := by
  unfold results Visit.withCatalog
  cases requestedQuery? visit.url with
  | none =>
      rfl
  | some query =>
      have excluded :
          (configure visit.site visit.url query).excludedTags =
            visit.site.hiddenTags := by
        simp [configure, noHidden]
      dsimp only
      rw [alike _ excluded]

/-- The search page depends on searches that exclude the tags of the site. -/
theorem provide_withCatalog
    (noHidden : showsHidden visit.url = false)
    (alike :
      Catalog.SearchAlike visit.site.hiddenTags other visit.catalog)
    (definitions : Definitions) :
    provide (visit.withCatalog other) definitions =
      provide visit definitions := by
  unfold provide
  rw [results_withCatalog noHidden alike]
  rfl

end SearchPage

/-- The definitions of a visited search page, whichever of two alike catalogs it sees. -/
theorem Visit.definitions_search_withCatalog
    {visit : Visit}
    {other : Catalog}
    (assembled : visit.site.Assembled)
    (noHidden : SearchPage.showsHidden visit.url = false)
    (alike :
      Catalog.SearchAlike visit.site.hiddenTags other visit.catalog) :
    (visit.withCatalog other).definitions SearchPage.namespaceName =
      visit.definitions SearchPage.namespaceName := by
  apply definitions_withCatalog
  rcases assembled.handler_eq_or SearchPage.namespaceName with
    search | plain
  · have isSearch :
        visit.site.handler SearchPage.namespaceName = .search :=
      search
    rw [isSearch]
    exact SearchPage.provide_withCatalog noHidden alike _
  · rw [plain]
    rfl

namespace Site

/--
Unless the URL asks for them, the search page gives nothing away about hidden games.

The answer to a request that leads to a search page is the answer that the request
would get from a catalog without the games that carry a tag of the site.
-/
theorem answer_eq_answer_visibleGames
    {site : Site}
    {tree : FileTree}
    {request : ClientRequest}
    {url : Url}
    {routed : Routed}
    {page : Route Page}
    (assembled : site.Assembled)
    (admitted : site.config.admitUrl request.url = .ok url)
    (routes : site.route tree url request.cookies = .ok routed)
    (isPage : routed.target = .page page)
    (isSearch : page.resource.namespaceName = "search")
    (noHidden : url.queryValue? "nsfw" ≠ some "true")
    (games : List Game) :
    site.answer (GameStore.ofGames games).catalog tree request =
      site.answer
        (GameStore.ofGames
          (visibleGames site.hiddenTags games)).catalog
        tree request := by
  let visit : Visit :=
    { site
      catalog := (GameStore.ofGames games).catalog
      url := routed.url
      language := routed.choice.language }
  let visible : Catalog :=
    (GameStore.ofGames (visibleGames site.hiddenTags games)).catalog
  have notShown : SearchPage.showsHidden visit.url = false := by
    have sameUrl : visit.url = url :=
      route_url routes
    rw [sameUrl]
    exact decide_eq_false noHidden
  have sameDefinitions :
      (visit.withCatalog visible).definitions
          page.resource.namespaceName =
        visit.definitions page.resource.namespaceName := by
    rw [isSearch]
    exact Visit.definitions_search_withCatalog assembled notShown
      (GameStore.searchAlike_visibleGames site.hiddenTags games)
  have samePage :
      (visit.withCatalog visible).renderPage page.resource =
        visit.renderPage page.resource :=
    Visit.renderPage_withCatalog assembled sameDefinitions
  have sameContent :
      targetContent visit tree routed.target =
        targetContent (visit.withCatalog visible) tree
          routed.target := by
    rw [isPage]
    unfold targetContent
    dsimp only
    rw [samePage]
    rfl
  exact assembled.answer_eq admitted routes sameContent

/-- A site with a search page that hides the games with one tag. -/
def hidingSite : Site where
  config := .defaults
  templates :=
    (Template.Store.empty.insert "search"
      { main := "\x7bsearchNavigation\x7d"
        fragments := .ofList [
          ("simple", ""),
          ("result", "\x7bresultTitle\x7d"),
          ("navigation", "\x7bsearchTotal\x7d \x7bsearchResults\x7d")] }).insert
      "shell" { main := "\x7bCONTENT\x7d", fragments := .empty }
  locales := { default := "en", languages := .empty }
  pages := ⟨[("/search", ⟨.bare "search", false⟩)]⟩
  endpoints := .empty
  hiddenTags := ["Extreme"]
  statistics := .empty .epoch
  handlers := .ofList [("search", .search)]

/-- A simple search hides the second of two games, whatever the case of its tag. -/
theorem answer_eq_answer_visibleGames_simple :
    let shown : Game := { id := "1", title := "Alpha quest" }
    let hidden : Game :=
      { id := "2", title := "Beta quest", tags := ["EXTREME"] }
    let request : ClientRequest :=
      ⟨"", "", "http://[::1]/search?query=quest", none⟩
    visibleGames hidingSite.hiddenTags [shown, hidden] = [shown] ∧
      hidingSite.answer (GameStore.ofGames [shown, hidden]).catalog
          .empty request =
        hidingSite.answer (GameStore.ofGames [shown]).catalog
          .empty request := by
  intro shown hidden request
  let url : Url :=
    { scheme := "http".toList
      authority := some (.ofHost (.ipv6 [0, 0, 0, 0, 0, 0, 0, 1]))
      path := .segments ["search".toList]
      query := some "query=quest".toList
      fragment := none }
  let page : Route Page := ⟨.bare "search", false⟩
  have visible :
      visibleGames hidingSite.hiddenTags [shown, hidden] = [shown] := by
    decide
  have assembled : hidingSite.Assembled :=
    rfl
  have admitted :
      hidingSite.config.admitUrl request.url = .ok url := by
    apply eq_ok_of_toOption_eq_some
    decide
  have routes :
      hidingSite.route .empty url request.cookies =
        .ok ⟨url, ⟨"en", false⟩, .page page⟩ := by
    apply eq_ok_of_toOption_eq_some
    decide
  have noHidden : url.queryValue? "nsfw" ≠ some "true" := by
    decide
  refine ⟨visible, ?_⟩
  rw [answer_eq_answer_visibleGames assembled admitted routes rfl
    rfl noHidden [shown, hidden], visible]

end Site

end CatalogSite
