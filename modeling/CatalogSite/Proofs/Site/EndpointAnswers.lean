import CatalogSite.Proofs.Site.Outcomes
import CatalogSite.Proofs.Site.Targets

namespace CatalogSite

/-!
# Endpoints are always answered

Assembling looks at every page and at every endpoint before there is a site, so it can
refuse what could not be answered later. The handlers of a site are therefore those that
the names of its namespaces stand for, and a request that is routed to an endpoint never
finds a handler that does not serve it. New statistics keep the handlers.
-/

namespace Site

variable {site : Site} {catalog : Catalog} {tree : FileTree}
  {request : ClientRequest} {routed : Routed}

/-- A request is let in and is routed. -/
structure Routes
    (site : Site)
    (tree : FileTree)
    (request : ClientRequest)
    (routed : Routed) : Prop where
  welcome :
    site.config.blocks request.address request.userAgent = false
  admitted :
    ∃ url,
      site.config.admitUrl request.url = .ok url ∧
        site.route tree url request.cookies = .ok routed

/-- What a request is routed to has been declared for the path of its URL. -/
theorem Routes.declaredBy
    (routes : site.Routes tree request routed) :
    ∃ path, routed.target.DeclaredBy site tree path := by
  obtain ⟨url, -, isRouted⟩ := routes.admitted
  exact ⟨url.routePath, declaredBy_of_target? (target?_of_route isRouted)⟩

/-- A request is answered by the finished content of what it is routed to. -/
theorem Routes.answer_eq
    {content : Response}
    (routes : site.Routes tree request routed)
    (rendered :
      targetContent
          { site
            catalog
            url := routed.url
            language := routed.choice.language }
          tree routed.target =
        .ok content) :
    site.answer catalog tree request =
      site.finished routed.choice content := by
  obtain ⟨url, isAdmitted, isRouted⟩ := routes.admitted
  have responds :
      site.respond catalog tree request =
        .ok (site.finished routed.choice content) := by
    simp only [respond, isAdmitted, isRouted, rendered, bind, Except.bind]
  rw [answer, routes.welcome, if_neg Bool.false_ne_true, responds]

/-- A declared endpoint shows the statistics of the site. -/
theorem Assembled.targetContent_endpoint
    {visit : Visit}
    {declared : String}
    {route : Route Endpoint}
    (assembled : visit.site.Assembled)
    (isDeclared : (declared, route) ∈ visit.site.endpoints.entries)
    (tree : FileTree) :
    targetContent visit tree (.endpoint route) =
      .ok (.ofContent route.resource.contentType
        (.text visit.site.statistics.toJson.text)) := by
  have serves := assembled.servesEndpoints_of_endpoint isDeclared
  simp only [targetContent, Handler.respond, serves, if_true, bind,
    Except.bind]

/-- A request that is routed to an endpoint is answered with the statistics of the site. -/
theorem Assembled.answer_of_endpoint
    {route : Route Endpoint}
    (assembled : site.Assembled)
    (routes : site.Routes tree request routed)
    (leads : routed.target = .endpoint route)
    (catalog : Catalog) :
    site.answer catalog tree request =
      site.finished routed.choice
        (.ofContent route.resource.contentType
          (.text site.statistics.toJson.text)) := by
  obtain ⟨path, declaredBy⟩ := routes.declaredBy
  rw [leads] at declaredBy
  obtain ⟨declared, isDeclared⟩ := declaredBy
  apply routes.answer_eq
  rw [leads]
  exact assembled.targetContent_endpoint isDeclared tree

variable {config : Config} {templates : Template.Store}
  {locales : Locales} {pages : RouteTable Page}
  {endpoints : RouteTable Endpoint} {hiddenTags : List String}
  {statistics : Statistics}

/--
Whatever a site has been assembled from, its endpoints are always answered.

A namespace has the handler of its name if a page or an endpoint names it and no handler
otherwise, and no page has a handler for endpoints only. Under all statistics that the
site is given, its first ones included, a request that is routed to an endpoint is
answered by an object that shows these statistics, their platforms, their number of games
and their time, as content of the type that the endpoint declares.
-/
theorem endpoints_answered_of_assemble
    (assembles :
      assemble config templates locales pages endpoints hiddenTags
          statistics =
        .ok site) :
    (∀ name,
      site.handler name =
        if name ∈ pageNamespaces pages.entries ∨
            name ∈ endpointNamespaces endpoints.entries then
          .ofNamespace name
        else .plain) ∧
    (∀ name ∈ pageNamespaces pages.entries,
      (site.handler name).isEndpointOnly = false) ∧
    site.withStatistics statistics = site ∧
    ∀ (figures : Statistics) (catalog : Catalog) (tree : FileTree)
        (request : ClientRequest) (routed : Routed)
        (route : Route Endpoint),
      (site.withStatistics figures).Routes tree request routed →
      routed.target = .endpoint route →
      let answer :=
        (site.withStatistics figures).answer catalog tree request
      let shown : Json :=
        .object [
          ("platforms", .array (figures.platforms.map .ofString)),
          ("totalGames", .ofNat figures.totalGames),
          ("refreshedAt", .ofString figures.refreshedAt.text)]
      answer.status.code = 200 ∧
        answer.body = .text shown.text ∧
        answer.headers.contentType =
          headerValue? route.resource.contentType := by
  have assembled := assembled_of_assemble assembles
  obtain ⟨forPages, -, rfl⟩ := assemble_eq_ok_iff.mp assembles
  have resolved := assembled.handler_eq
  simp only [namespaces, List.mem_append] at resolved
  refine ⟨resolved, ?_, rfl, ?_⟩
  · intro name named
    rw [resolved name, if_pos (.inl named)]
    exact forPages name named
  · intro figures catalog tree request routed route routes leads answer shown
    have answered : answer = _ :=
      (assembled.withStatistics figures).answer_of_endpoint routes leads
        catalog
    rw [answered]
    exact ⟨rfl, rfl, rfl⟩

/-- A site with a search page and with an endpoint for its statistics. -/
def figuresSite : Site where
  config := .defaults
  templates := .empty
  locales := { default := "en", languages := .empty }
  pages := { entries := [("/", ⟨.bare "search", true⟩)] }
  endpoints :=
    { entries := [
        ("/figures", ⟨⟨"searchinfo", "application/json"⟩, false⟩)] }
  hiddenTags := []
  statistics := .empty .epoch
  handlers :=
    .ofList [("search", .search), ("searchinfo", .searchInfo)]

/-- The endpoint beside the search page is answered by the figures that came in last. -/
theorem endpoints_answered_of_assemble_figures :
    let figures : Statistics := ⟨["Flash", "HTML5"], 12, .epoch⟩
    let catalog := (GameStore.ofGames []).catalog
    let request : ClientRequest :=
      ⟨"", "", "http://[::1]/figures", none⟩
    let answer :=
      (figuresSite.withStatistics figures).answer catalog ⟨[]⟩ request
    assemble figuresSite.config figuresSite.templates
        figuresSite.locales figuresSite.pages figuresSite.endpoints
        figuresSite.hiddenTags figuresSite.statistics =
      .ok figuresSite ∧
      answer.status.code = 200 ∧
      answer.body =
        .text ("\x7b\"platforms\":[\"Flash\",\"HTML5\"],\"totalGames\":12," ++
          "\"refreshedAt\":\"1970-01-01T00:00:00Z\"\x7d") ∧
      answer.headers.contentType = some "application/json" := by
  intro figures catalog request answer
  let snapshot := figuresSite.withStatistics figures
  let url : Url :=
    { scheme := "http".toList
      authority := some (.ofHost (.ipv6 [0, 0, 0, 0, 0, 0, 0, 1]))
      path := .segments ["figures".toList]
      query := none
      fragment := none }
  let route : Route Endpoint :=
    ⟨⟨"searchinfo", "application/json"⟩, false⟩
  let routed : Routed :=
    ⟨url, ⟨"en", false⟩, .endpoint route⟩
  have assembles : figuresSite.Assembled := by
    apply eq_ok_of_toOption_eq_some
    decide +kernel
  have admitted : snapshot.config.admitUrl request.url = .ok url := by
    apply eq_ok_of_toOption_eq_some
    decide +kernel
  have isRouted :
      snapshot.route ⟨[]⟩ url request.cookies = .ok routed := by
    apply eq_ok_of_toOption_eq_some
    decide +kernel
  have routes : snapshot.Routes ⟨[]⟩ request routed :=
    { welcome := by decide
      admitted := ⟨url, admitted, isRouted⟩ }
  obtain ⟨-, -, -, answered⟩ :=
    endpoints_answered_of_assemble assembles
  obtain ⟨isOk, body, contentType⟩ :=
    answered figures catalog ⟨[]⟩ request routed route routes rfl
  have isHeader :
      headerValue? route.resource.contentType =
        some "application/json" := by
    decide
  have isWritten :
      figures.toJson.text =
        "\x7b\"platforms\":[\"Flash\",\"HTML5\"],\"totalGames\":12," ++
          "\"refreshedAt\":\"1970-01-01T00:00:00Z\"\x7d" := by
    decide
  exact
    ⟨assembles, isOk, body.trans (congrArg FileContent.text isWritten),
      contentType.trans isHeader⟩

end Site

end CatalogSite
