import CatalogSite.Proofs.Site.Faultless

namespace CatalogSite

/-!
# Requests that find nothing

There is nothing for a request whose path has no target, and for a visit to the page
of a game that names no game of the catalog. Both end in the same failure, which keeps
the URL and the language of the request. On a ready site the not-found content and the
shell can always be rendered for these, so the minimal error page has no part in it.

The failure keeps the URL as a text. That this text is read as the same URL again is a
property of URLs, and is assumed where it is needed.
-/

/-- The language of a request: the first declared one that it names, else the default. -/
def Locales.resolved
    (locales : Locales)
    (url : Url)
    (cookies : Option String) :
    String :=
  ((locales.known? (url.queryValue? languageKey)).or
      (locales.known?
        (cookies.bind (Cookie.value? · languageKey)))).getD
    locales.default

theorem Locales.choose_language
    (locales : Locales)
    (url : Url)
    (cookies : Option String) :
    (locales.choose url cookies).language =
      locales.resolved url cookies := by
  unfold choose resolved
  cases locales.known? (url.queryValue? languageKey) with
  | some language =>
      rfl
  | none =>
      cases locales.known?
          (cookies.bind (Cookie.value? · languageKey)) with
      | some language =>
          rfl
      | none =>
          rfl

/-- A URL names no game, or one that is not in the catalog. -/
inductive GamePage.NamesNoGame
    (catalog : Catalog)
    (url : Url) : Prop where
  | noId
      (unnamed : url.queryValue? "id" = none)
  | noRecord
      {id : String}
      (named : url.queryValue? "id" = some id)
      (unknown : catalog.find id = .ok none)

theorem GamePage.provide_of_namesNoGame
    {visit : Visit}
    (nothing : GamePage.NamesNoGame visit.catalog visit.url) :
    GamePage.provide visit = .error visit.notFound := by
  cases nothing with
  | noId unnamed =>
      rw [provide, unnamed]
  | noRecord named unknown =>
      rw [provide, named]
      simp only [unknown, Catalog.lift_ok]
      rfl

namespace Site

variable {disk tree : FileTree} {config : Config}
  {statistics : Statistics} {site : Site} {catalog : Catalog}
  {request : ClientRequest} {url : Url}

/-- The not-found content of a ready site can be rendered. -/
theorem Ready.exists_renderPage_notFound
    (visit : Visit)
    (ready : visit.site.Ready) :
    ∃ body,
      visit.renderPage (.bare Template.notFoundNamespace) = .ok body := by
  let page : Page := .bare Template.notFoundNamespace
  have plain : visit.site.handler page.namespaceName = .plain :=
    ready.assembled.handler_eq_plain rfl
  obtain ⟨fill, renders⟩ :=
    ready.exists_renderPage_eq_map page
      (ready.lateTemplate page.namespaceName (by decide))
  rw [renders, Visit.definitions_of_plain plain]
  exact ⟨_, rfl⟩

/-- The page of a game that is not there fails like the visit itself. -/
theorem Ready.renderPage_of_namesNoGame
    {visit : Visit}
    {page : Page}
    (ready : visit.site.Ready)
    (declared : page ∈ visit.site.declaredPages)
    (isView : visit.site.handler page.namespaceName = .view)
    (nothing : GamePage.NamesNoGame visit.catalog visit.url) :
    visit.renderPage page = .error visit.notFound := by
  obtain ⟨fill, renders⟩ :=
    ready.exists_renderPage_eq_map page
      (ready.pageTemplate page declared)
  have undefinedContent :
      visit.definitions page.namespaceName = .error visit.notFound := by
    simp only [Visit.definitions, isView, Handler.provide,
      GamePage.provide_of_namesNoGame nothing]
    rfl
  rw [renders, undefinedContent]
  rfl

/-- The visit that an admitted request makes. -/
def visitFor
    (site : Site)
    (catalog : Catalog)
    (url : Url)
    (cookies : Option String) :
    Visit where
  site := site
  catalog := catalog
  url := url
  language := site.locales.resolved url cookies

/-- A URL has no target, or it leads to the page of a game and there is none. -/
inductive FindsNothing
    (site : Site)
    (catalog : Catalog)
    (tree : FileTree)
    (url : Url) : Prop where
  | noTarget
      (nowhere : site.target? tree url.routePath = none)
  | noGame
      {route : Route Page}
      (leads : site.target? tree url.routePath = some (.page route))
      (isView : route.resource.namespaceName = "view")
      (nothing : GamePage.NamesNoGame catalog url)

/-- Whatever a request misses, its failure keeps its URL and its language. -/
theorem Ready.respond_of_findsNothing
    (ready : site.Ready)
    (admitted : site.config.admitUrl request.url = .ok url)
    (nothing : site.FindsNothing catalog tree url) :
    site.respond catalog tree request =
      .error (site.visitFor catalog url request.cookies).notFound := by
  unfold respond
  rw [admitted]
  cases nothing with
  | noTarget nowhere =>
      simp only [bind, Except.bind, route_of_target?_eq_none nowhere,
        Locales.choose_language, Visit.notFound, visitFor]
  | noGame leads isView nothing =>
      rename_i route
      obtain ⟨declaredAt, isDeclared⟩ := declaredBy_of_target? leads
      have declared : route.resource ∈ site.declaredPages :=
        mem_declaredPages isDeclared
      have isHandler :
          site.handler route.resource.namespaceName = .view := by
        rw [ready.assembled.handler_of_page isDeclared, isView]
        rfl
      have fails :
          (site.visitFor catalog url request.cookies).renderPage
              route.resource =
            .error
              (site.visitFor catalog url request.cookies).notFound :=
        ready.renderPage_of_namesNoGame declared isHandler nothing
      rw [visitFor] at fails ⊢
      simp only [bind, Except.bind, route_of_target? leads,
        Locales.choose_language, targetContent, fails]

/-- The answer to a request for which there is nothing, with its page. -/
def notFoundAnswer
    (language body : String) :
    Response where
  status := .notFound
  headers :=
    { contentType := some htmlContentType
      contentLanguage := headerValue? language }
  body := .text body

/-- A failure for want of something is shown by its page, if that can be rendered. -/
theorem errorResponse_notFound
    (visit : Visit)
    {body : String}
    (reparses : Url.parse visit.url.text = .ok visit.url)
    (renders :
      visit.renderPage (.bare Template.notFoundNamespace) = .ok body) :
    visit.site.errorResponse visit.catalog visit.notFound =
      notFoundAnswer visit.language body := by
  have page :
      visit.site.notFoundPage visit.catalog visit.url.text
          visit.language =
        .ok body := by
    rw [notFoundPage, reparses]
    exact renders
  have isHeader :
      headerValue? htmlContentType = some htmlContentType := by
    decide
  simp only [errorResponse, errorPage, Visit.notFound, page,
    RequestError.status, Response.html, Response.inLanguage, isHeader,
    notFoundAnswer]

/--
A request that finds nothing is always answered inside the localized shell.

The body is the not-found page in the language of the request, which is named in the
headers if it can be.
-/
theorem answer_eq_notFoundAnswer
    (loads : Site.load disk config statistics = .ok site)
    (welcome :
      site.config.blocks request.address request.userAgent = false)
    (admitted : site.config.admitUrl request.url = .ok url)
    (reparses : Url.parse url.text = .ok url)
    (nothing : site.FindsNothing catalog tree url) :
    ∃ body,
      (site.visitFor catalog url request.cookies).renderPage
          (.bare "notfound") =
        .ok body ∧
      site.answer catalog tree request =
        notFoundAnswer (site.locales.resolved url request.cookies)
          body := by
  have ready := ready_of_load loads
  let visit := site.visitFor catalog url request.cookies
  obtain ⟨body, renders⟩ :=
    Ready.exists_renderPage_notFound visit ready
  have fails :
      site.respond catalog tree request = .error visit.notFound :=
    ready.respond_of_findsNothing admitted nothing
  have answered :
      site.errorResponse catalog visit.notFound =
        notFoundAnswer visit.language body :=
    errorResponse_notFound visit reparses renders
  refine ⟨body, renders, ?_⟩
  simp only [answer, welcome, fails, answered]
  rfl

/-- A path without a target is answered in the language that the URL names. -/
theorem answer_eq_notFoundAnswer_french :
    let catalog := (GameStore.ofGames []).catalog
    let request : ClientRequest :=
      ⟨"", "", "http://[::1]/nope?lang=fr", none⟩
    let url : Url :=
      { scheme := "http".toList
        authority := some (.ofHost (.ipv6 [0, 0, 0, 0, 0, 0, 0, 1]))
        path := .segments ["nope".toList]
        query := some "lang=fr".toList
        fragment := none }
    Site.load smallDisk smallConfig (.empty .epoch) = .ok smallSite ∧
      smallSite.config.blocks request.address request.userAgent =
        false ∧
      smallSite.config.admitUrl request.url = .ok url ∧
      Url.parse url.text = .ok url ∧
      smallSite.FindsNothing catalog smallDisk url ∧
      ∃ body,
        smallSite.answer catalog smallDisk request =
          notFoundAnswer "fr" body := by
  intro catalog request url
  have welcome :
      smallSite.config.blocks request.address request.userAgent =
        false := by
    decide
  have admitted :
      smallSite.config.admitUrl request.url = .ok url := by
    apply eq_ok_of_toOption_eq_some
    decide
  have reparses : Url.parse url.text = .ok url := by
    apply eq_ok_of_toOption_eq_some
    decide
  have nothing :
      smallSite.FindsNothing catalog smallDisk url := by
    apply FindsNothing.noTarget
    decide
  have french :
      smallSite.locales.resolved url request.cookies = "fr" := by
    decide
  obtain ⟨body, -, answered⟩ :=
    answer_eq_notFoundAnswer load_smallDisk welcome admitted reparses
      nothing
  rw [french] at answered
  exact
    ⟨load_smallDisk, welcome, admitted, reparses, nothing, body,
      answered⟩

end Site

end CatalogSite
