import CatalogSite.Proofs.Site.EndpointAnswers
import CatalogSite.Proofs.Site.Loaded
import CatalogSite.Proofs.Site.StaticFiles

namespace CatalogSite

/-!
# Answers without faults

Loading a site makes sure that every template is there that a page, the shell or the
not-found content needs, and that every endpoint has a handler that serves it. What is
left that could go wrong are the fragments of the search and the queries of the catalog.
Where these are there, a request is answered, refused, or told that there is nothing.
-/

/-- A computation that does not end in a fault of the site. -/
def Faultless
    {α : Type}
    (result : Except RequestError α) : Prop :=
  ∀ fault, result ≠ .error (.internal fault)

namespace Faultless

variable {α β : Type}

theorem ok
    (value : α) :
    Faultless (.ok value) := by
  intro fault isFault
  cases isFault

theorem refused
    (reason : Refusal) :
    Faultless (.error (.refused reason) : Except RequestError α) := by
  intro fault isFault
  cases isFault

theorem notFound
    (url language : String) :
    Faultless
      (.error (.notFound url language) : Except RequestError α) := by
  intro fault isFault
  cases isFault

/-- Two steps are free of faults if both are, the second one for the outcome of the first. -/
theorem bind
    {first : Except RequestError α}
    {next : α → Except RequestError β}
    (firstFaultless : Faultless first)
    (nextFaultless :
      ∀ value, first = .ok value → Faultless (next value)) :
    Faultless (first >>= next) := by
  cases first with
  | error error =>
      intro fault isFault
      cases isFault
      exact firstFaultless fault rfl
  | ok value =>
      exact nextFaultless value rfl

theorem map
    {result : Except RequestError α}
    (faultless : Faultless result)
    (change : α → β) :
    Faultless (result.map change) := by
  cases result with
  | error error =>
      intro fault isFault
      cases isFault
      exact faultless fault rfl
  | ok value =>
      exact ok (change value)

theorem lift
    {result : Except CatalogError α}
    (succeeds : ∃ value, result = .ok value) :
    Faultless (Catalog.lift result) := by
  obtain ⟨value, isValue⟩ := succeeds
  rw [isValue, Catalog.lift_ok]
  exact ok value

end Faultless

/--
No query fails that a page makes.

The figures of a catalog are collected apart from all requests, so the queries for these
are left open.
-/
structure Catalog.Works
    (catalog : Catalog) : Prop where
  search : ∀ query, ∃ games, catalog.search query = .ok games
  find : ∀ id, ∃ found, catalog.find id = .ok found

namespace SearchPage

/-- The fragments that a search can render. -/
def fragmentNames : List String :=
  ["simple", "advanced", "result", "navigation"]

/-- A site holds every fragment that a search can render. -/
def HasFragments
    (site : Site) : Prop :=
  ∀ name ∈ fragmentNames,
    ∃ template, fragment site name = .ok template

variable {site : Site} {visit : Visit}

theorem faultless_navigation
    (complete : HasFragments site)
    (definitions : Definitions)
    (games : List Game) :
    Faultless (navigation site definitions games) := by
  obtain ⟨result, hasResult⟩ := complete "result" (by decide)
  obtain ⟨around, hasAround⟩ := complete "navigation" (by decide)
  unfold navigation
  split
  · exact .ok _
  · rw [hasResult, hasAround]
    exact .ok _

theorem faultless_results
    (complete : HasFragments visit.site)
    (works : visit.catalog.Works)
    (definitions : Definitions) :
    Faultless (results visit definitions) := by
  unfold results
  split
  · exact .ok _
  · exact
      (Faultless.lift (works.search _)).bind fun games _ =>
        faultless_navigation complete definitions games

/-- The search fails for want of a fragment or of the catalog alone. -/
theorem faultless_provide
    (complete : HasFragments visit.site)
    (works : visit.catalog.Works)
    (definitions : Definitions) :
    Faultless (provide visit definitions) := by
  have formLoaded :
      ∃ template,
        fragment visit.site
            (if isAdvanced visit.url then "advanced" else "simple") =
          .ok template := by
    apply complete
    cases isAdvanced visit.url <;> decide
  obtain ⟨form, hasForm⟩ := formLoaded
  unfold provide
  rw [hasForm]
  exact
    (faultless_results complete works definitions).bind
      fun _ _ => .ok _

end SearchPage

/-- The page of a game fails for want of the catalog alone. -/
theorem GamePage.faultless_provide
    {visit : Visit}
    (works : visit.catalog.Works) :
    Faultless (GamePage.provide visit) := by
  unfold GamePage.provide
  split
  · exact .notFound _ _
  · refine (Faultless.lift (works.find _)).bind fun found _ => ?_
    cases found with
    | none => exact .notFound _ _
    | some game => exact .ok _

theorem Handler.faultless_provide
    {handler : Handler}
    {visit : Visit}
    (complete :
      handler = .search → SearchPage.HasFragments visit.site)
    (works : visit.catalog.Works)
    (translations : Definitions) :
    Faultless (handler.provide visit translations) := by
  cases handler with
  | search =>
      exact
        SearchPage.faultless_provide (complete rfl) works translations
  | view =>
      exact GamePage.faultless_provide works
  | searchInfo =>
      exact .ok _
  | plain =>
      exact .ok _

/-- A namespace without a handler has its translations alone. -/
theorem Visit.definitions_of_plain
    {visit : Visit}
    {namespaceName : String}
    (plain : visit.site.handler namespaceName = .plain) :
    visit.definitions namespaceName =
      .ok ((visit.translations namespaceName).overlay .empty) := by
  unfold definitions
  rw [plain]
  rfl

namespace Site

variable {tree disk : FileTree} {config : Config} {statistics : Statistics}
  {site : Site} {catalog : Catalog}

/-- Each page of the search declares every fragment that a search can render. -/
def DeclaresSearchFragments
    (site : Site) : Prop :=
  ∀ page ∈ site.declaredPages,
    page.namespaceName = SearchPage.namespaceName →
    ∀ name ∈ SearchPage.fragmentNames, name ∈ page.fragments

/-- A site that has a search page holds every fragment that a search can render. -/
def SearchReady
    (site : Site) : Prop :=
  ∀ page ∈ site.declaredPages,
    page.namespaceName = SearchPage.namespaceName →
    SearchPage.HasFragments site

/-- What each page of the search declares is there once the site is loaded. -/
theorem searchReady_of_load
    (loads : Site.load disk config statistics = .ok site)
    (declares : site.DeclaresSearchFragments) :
    site.SearchReady := by
  intro page declared searches name member
  have keeps :
      KeepsFragment site.declaredPages SearchPage.namespaceName name :=
    keepsFragment_of_declared (by decide) declared searches
      fun other otherDeclared otherSearches =>
        declares other otherDeclared otherSearches name member
  have found :=
    (fragment?_of_load loads SearchPage.namespaceName name).1 keeps
  obtain ⟨template, isTemplate⟩ :=
    exists_text?_of_declared loads declared
      (declares page declared searches name member)
  rw [searches] at isTemplate
  exact ⟨template, by rw [SearchPage.fragment, found, isTemplate]⟩

/-- The handler of the search belongs to one namespace only. -/
theorem eq_of_handler_eq_search
    (assembled : site.Assembled)
    {namespaceName : String}
    (searches : site.handler namespaceName = .search) :
    namespaceName = SearchPage.namespaceName := by
  rcases assembled.handler_eq_or namespaceName with named | plain
  · rw [named] at searches
    unfold Handler.ofNamespace at searches
    split at searches
    · rfl
    all_goals cases searches
  · rw [plain] at searches
    cases searches

namespace Ready

/-- A page that has a template is rendered as soon as its content is defined. -/
theorem exists_renderPage_eq_map
    {visit : Visit}
    (ready : visit.site.Ready)
    (page : Page)
    (hasTemplate :
      ∃ template,
        visit.site.mainTemplate page.namespaceName = .ok template) :
    ∃ fill,
      visit.renderPage page =
        (visit.definitions page.namespaceName).map fill := by
  obtain ⟨template, isTemplate⟩ := hasTemplate
  obtain ⟨shellTemplate, isShell⟩ :=
    ready.lateTemplate Template.shellNamespace (by decide)
  have shellPlain :
      visit.site.handler Template.shellNamespace = .plain :=
    ready.assembled.handler_eq_plain rfl
  let shell : Definitions :=
    (visit.translations Template.shellNamespace).overlay .empty
  refine
    ⟨fun content =>
      Template.render shellTemplate
        ((visit.shellSeed page content
          (Template.render template content)).overlay shell), ?_⟩
  unfold Visit.renderPage
  rw [isTemplate, Visit.definitions_of_plain shellPlain, isShell]
  cases visit.definitions page.namespaceName <;> rfl

theorem faultless_renderPage
    {visit : Visit}
    {page : Page}
    (ready : visit.site.Ready)
    (declared : page ∈ visit.site.declaredPages)
    (searchReady : visit.site.SearchReady)
    (works : visit.catalog.Works) :
    Faultless (visit.renderPage page) := by
  obtain ⟨fill, renders⟩ :=
    ready.exists_renderPage_eq_map page
      (ready.pageTemplate page declared)
  have provided :
      Faultless
        ((visit.site.handler page.namespaceName).provide visit
          (visit.translations page.namespaceName)) :=
    Handler.faultless_provide
      (fun searches =>
        searchReady page declared
          (eq_of_handler_eq_search ready.assembled searches))
      works _
  have content :
      Faultless (visit.definitions page.namespaceName) :=
    provided.bind fun _ _ => .ok _
  rw [renders]
  exact content.map fill

/-- Whatever a target has been declared by, its content is free of faults. -/
theorem faultless_targetContent
    {visit : Visit}
    {path : String}
    {target : Target}
    (ready : visit.site.Ready)
    (searchReady : visit.site.SearchReady)
    (works : visit.catalog.Works)
    (declared : target.DeclaredBy visit.site tree path) :
    Faultless (targetContent visit tree target) := by
  -- Each kind of target has its own reason: assembling, loading, and the look-up itself.
  cases target with
  | endpoint route =>
      obtain ⟨declaredAt, isDeclared⟩ := declared
      rw [ready.assembled.targetContent_endpoint isDeclared]
      exact .ok _
  | page route =>
      obtain ⟨declaredAt, isDeclared⟩ := declared
      have isPage : route.resource ∈ visit.site.declaredPages :=
        mem_declaredPages isDeclared
      exact
        (ready.faultless_renderPage isPage searchReady works).bind
          fun _ _ => .ok _
  | file full =>
      obtain ⟨content, isFile, -⟩ :=
        (FileTree.servesBelow_of_servedFile? declared).isFile
      simp only [targetContent, FileTree.content?, isFile]
      exact .ok _

end Ready

theorem faultless_admitUrl
    (config : Config)
    (text : String) :
    Faultless (config.admitUrl text) := by
  unfold Config.admitUrl
  split
  · exact .refused _
  · dsimp only
    split
    · exact .ok _
    · exact .refused _

theorem faultless_route
    (site : Site)
    (tree : FileTree)
    (url : Url)
    (cookies : Option String) :
    Faultless (site.route tree url cookies) := by
  cases leads : site.target? tree url.routePath with
  | none =>
      rw [route_of_target?_eq_none leads]
      exact .notFound _ _
  | some target =>
      rw [route_of_target? leads]
      exact .ok _

/-- A ready site that has its fragments responds without fault while its catalog works. -/
theorem Ready.faultless_respond
    (ready : site.Ready)
    (searchReady : site.SearchReady)
    (works : catalog.Works)
    (tree : FileTree)
    (request : ClientRequest) :
    Faultless (site.respond catalog tree request) := by
  unfold respond
  refine (faultless_admitUrl _ _).bind fun url _ => ?_
  refine (faultless_route site tree url _).bind fun routed routes => ?_
  have declared := declaredBy_of_target? (target?_of_route routes)
  exact
    (ready.faultless_targetContent searchReady works declared).bind
      fun _ _ => .ok _

theorem status_of_targetContent
    {visit : Visit}
    {target : Target}
    {response : Response}
    (found : targetContent visit tree target = .ok response) :
    response.status = .ok := by
  cases target with
  | endpoint route =>
      obtain ⟨body, -, isResponse⟩ := exists_of_bind_eq_ok found
      cases isResponse
      rfl
  | page route =>
      obtain ⟨body, -, isResponse⟩ := exists_of_bind_eq_ok found
      cases isResponse
      rfl
  | file path =>
      rw [targetContent] at found
      split at found
      · cases found
        rfl
      · cases found

/-- A request that does not fail is a success. -/
theorem status_of_respond
    {request : ClientRequest}
    {response : Response}
    (responds : site.respond catalog tree request = .ok response) :
    response.status = .ok := by
  unfold respond at responds
  obtain ⟨url, -, rest⟩ := exists_of_bind_eq_ok responds
  obtain ⟨routed, -, rest⟩ := exists_of_bind_eq_ok rest
  obtain ⟨content, found, isResponse⟩ := exists_of_bind_eq_ok rest
  have isOk : content.status = .ok :=
    status_of_targetContent found
  cases isResponse
  exact isOk

/-- The answer to a failure has the status of the failure. -/
theorem status_errorResponse
    (site : Site)
    (catalog : Catalog)
    (error : RequestError) :
    (site.errorResponse catalog error).status = error.status := by
  cases error <;> rfl

/-- A site without faults answers no request by an internal error. -/
theorem status_answer_of_faultless
    {request : ClientRequest}
    (faultless : Faultless (site.respond catalog tree request)) :
    (site.answer catalog tree request).status ≠ .internalError := by
  unfold answer
  split
  · simp [blockedResponse, Response.html]
  · split
    · rename_i response responds
      simp [status_of_respond responds]
    · rename_i error fails
      rw [status_errorResponse]
      cases error with
      | refused reason => simp [RequestError.status]
      | notFound url language => simp [RequestError.status]
      | internal fault => exact (faultless fault fails).elim

/--
A loaded site never answers with an internal error while its catalog works.

Each page of the search has to declare all fragments of the search; there is no other
condition on the pages and the endpoints, on the static files or on the request.
-/
theorem answer_code_of_load
    (loads : Site.load disk config statistics = .ok site)
    (declares : site.DeclaresSearchFragments)
    (works : catalog.Works)
    (tree : FileTree)
    (request : ClientRequest) :
    (site.answer catalog tree request).status.code ∈
      [200, 400, 404] := by
  have faultless : Faultless (site.respond catalog tree request) :=
    (ready_of_load loads).faultless_respond
      (searchReady_of_load loads declares) works tree request
  have noFault := status_answer_of_faultless faultless
  revert noFault
  cases (site.answer catalog tree request).status <;>
    simp [Status.code]

/-- A search of the small site is answered without fault by an empty catalog. -/
theorem answer_code_of_load_small :
    let catalog := (GameStore.ofGames []).catalog
    let request : ClientRequest :=
      ⟨"", "", "http://[::1]/search?query=quest", none⟩
    Site.load smallDisk smallConfig (.empty .epoch) = .ok smallSite ∧
      smallSite.DeclaresSearchFragments ∧
      catalog.Works ∧
      (smallSite.answer catalog smallDisk request).status.code ∈
        [200, 400, 404] := by
  intro catalog request
  have declares : smallSite.DeclaresSearchFragments := by
    unfold DeclaresSearchFragments
    decide
  have works : catalog.Works :=
    { search := fun query => ⟨_, rfl⟩
      find := fun id => ⟨_, rfl⟩ }
  exact
    ⟨load_smallDisk, declares, works,
      answer_code_of_load load_smallDisk declares works smallDisk
        request⟩

end Site

end CatalogSite
