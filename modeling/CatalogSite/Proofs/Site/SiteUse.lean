import CatalogSite.Proofs.Dictionary.Lookup
import CatalogSite.Proofs.Site.Headers

namespace CatalogSite

/-!
# What an answer reads of its site

Of the translations an answer reads those of the default language and those of the
language that the request is resolved to; every other language appears only as a link
with its name. The statistics are read by endpoints alone. A site can therefore be
revised in all other translations, and for everything but endpoints in its statistics,
and a request still gets the same answer.
-/

/--
Two collections of languages that differ at most in the translations of languages that
are not kept.
-/
structure Locales.AgreeOn
    (kept : String → Prop)
    (first second : Locales) : Prop where
  default : first.default = second.default
  /-- The same languages are declared under the same names, in the same order. -/
  names : first.languages.map Locale.name = second.languages.map Locale.name
  translations :
    ∀ code, kept code →
      ∀ namespaceName,
        first.translations? code namespaceName =
          second.translations? code namespaceName

namespace Locales.AgreeOn

variable {kept : String → Prop} {first second : Locales}

/-- The names decide which languages are known. -/
theorem name?_eq
    (agree : first.AgreeOn kept second)
    (code : String) :
    (first.languages.get? code).map Locale.name =
      (second.languages.get? code).map Locale.name := by
  rw [← Dictionary.get?_map, ← Dictionary.get?_map, agree.names]

theorem isKnown_eq
    (agree : first.AgreeOn kept second)
    (code : String) :
    first.isKnown code = second.isKnown code := by
  have sameName := congrArg Option.isSome (agree.name?_eq code)
  rwa [Option.isSome_map, Option.isSome_map] at sameName

theorem name_eq
    (agree : first.AgreeOn kept second)
    (code : String) :
    first.name code = second.name code := by
  have shown
      (locales : Locales) :
      locales.name code =
        ((locales.languages.get? code).map Locale.name).getD code := by
    unfold name
    cases locales.languages.get? code with
    | none =>
        rfl
    | some locale =>
        rfl
  rw [shown, shown, agree.name?_eq code]

/-- A request is resolved to the same language, and remembers it alike. -/
theorem choose_eq
    (agree : first.AgreeOn kept second)
    (url : Url)
    (cookies : Option String) :
    first.choose url cookies = second.choose url cookies := by
  have sameKnown : first.known? = second.known? := by
    funext code
    have sameTest : first.isKnown = second.isKnown :=
      funext agree.isKnown_eq
    rw [known?, known?, sameTest]
  rw [choose, choose, sameKnown, agree.default]

/-- The links to the languages show codes and names only. -/
theorem links_eq
    (agree : first.AgreeOn kept second) :
    (first.languages.entries.map fun (code, locale) =>
        languageLink code locale.name) =
      second.languages.entries.map fun (code, locale) =>
        languageLink code locale.name := by
  have fromNames
      (locales : Locales) :
      (locales.languages.entries.map fun (code, locale) =>
          languageLink code locale.name) =
        (locales.languages.map Locale.name).entries.map
          fun entry => languageLink entry.1 entry.2 := by
    simp [Dictionary.map]
  rw [fromNames, fromNames, agree.names]

/-- A kept language has the same definitions, since the default language is kept too. -/
theorem definitions_eq
    (agree : first.AgreeOn kept second)
    (keepsDefault : kept first.default)
    {code : String}
    (isKept : kept code)
    (namespaceName : String) :
    first.definitions namespaceName code =
      second.definitions namespaceName code := by
  unfold definitions
  rw [← agree.default,
    agree.translations first.default keepsDefault namespaceName,
    agree.translations code isKept namespaceName]

end Locales.AgreeOn

/-- The same site with other languages and other statistics. -/
def Site.revised
    (site : Site)
    (locales : Locales)
    (statistics : Statistics) :
    Site :=
  { site with locales, statistics }

/-- The same visit, to the revised site. -/
def Visit.revised
    (visit : Visit)
    (locales : Locales)
    (statistics : Statistics) :
    Visit :=
  { visit with site := visit.site.revised locales statistics }

section Visits

variable {kept : String → Prop} {visit : Visit} {locales : Locales}

/-- No handler reads anything of the languages but the translations it is given. -/
theorem Handler.provide_revised
    (handler : Handler)
    (visit : Visit)
    (locales : Locales)
    (statistics : Statistics)
    (translations : Definitions) :
    handler.provide (visit.revised locales statistics) translations =
      handler.provide visit translations := by
  cases handler with
  | search =>
      rfl
  | view =>
      rfl
  | searchInfo =>
      rfl
  | plain =>
      rfl

namespace Visit

theorem definitions_revised
    (agree : visit.site.locales.AgreeOn kept locales)
    (keepsDefault : kept visit.site.locales.default)
    (keepsLanguage : kept visit.language)
    (statistics : Statistics)
    (name : String) :
    (visit.revised locales statistics).definitions name =
      visit.definitions name := by
  have sameTranslations :
      (visit.revised locales statistics).translations name =
        visit.translations name :=
    (agree.definitions_eq keepsDefault keepsLanguage name).symm
  have sameHandler :
      (visit.revised locales statistics).site.handler name =
        visit.site.handler name :=
    rfl
  simp only [definitions, sameTranslations, sameHandler,
    Handler.provide_revised]

theorem shellSeed_revised
    (agree : visit.site.locales.AgreeOn kept locales)
    (statistics : Statistics)
    (page : Page)
    (content : Definitions)
    (body : String) :
    (visit.revised locales statistics).shellSeed page content body =
      visit.shellSeed page content body := by
  unfold shellSeed
  rw [agree.links_eq, agree.name_eq visit.language]
  rfl

/-- A page in a kept language is the same on the revised site. -/
theorem renderPage_revised
    (agree : visit.site.locales.AgreeOn kept locales)
    (keepsDefault : kept visit.site.locales.default)
    (keepsLanguage : kept visit.language)
    (statistics : Statistics)
    (page : Page) :
    (visit.revised locales statistics).renderPage page =
      visit.renderPage page := by
  have sameDefinitions :=
    definitions_revised agree keepsDefault keepsLanguage statistics
  unfold renderPage
  simp only [sameDefinitions, shellSeed_revised agree]
  rfl

end Visit

end Visits

namespace Site

variable {kept : String → Prop} {site : Site} {locales : Locales}
  {catalog : Catalog} {tree : FileTree} {request : ClientRequest}

/-- A request of a client that is not turned away leads to an endpoint. -/
def RoutesToEndpoint
    (site : Site)
    (tree : FileTree)
    (request : ClientRequest) : Prop :=
  site.config.blocks request.address request.userAgent = false ∧
    ∃ url route,
      site.config.admitUrl request.url = .ok url ∧
        site.target? tree url.routePath = some (.endpoint route)

theorem errorPage_revised
    (agree : site.locales.AgreeOn kept locales)
    (keepsDefault : kept site.locales.default)
    {error : RequestError}
    (keepsLanguage :
      ∀ url language, error = .notFound url language → kept language)
    (statistics : Statistics) :
    (site.revised locales statistics).errorPage catalog error =
      site.errorPage catalog error := by
  cases error with
  | refused reason =>
      rfl
  | internal fault =>
      rfl
  | notFound url language =>
      have samePage :
          (site.revised locales statistics).notFoundPage catalog url
              language =
            site.notFoundPage catalog url language := by
        unfold notFoundPage
        cases Url.parse url with
        | error cause =>
            rfl
        | ok parsed =>
            let visit : Visit :=
              { site, catalog, url := parsed, language }
            have samePage :
                (visit.revised locales statistics).renderPage
                    (.bare Template.notFoundNamespace) =
                  visit.renderPage (.bare Template.notFoundNamespace) :=
              Visit.renderPage_revised agree keepsDefault
                (keepsLanguage url language rfl) statistics _
            exact samePage
      simp only [errorPage, samePage]
      rfl

/-- The failure of a request is shown in the language that the request is resolved to. -/
theorem errorResponse_revised
    (agree : site.locales.AgreeOn kept locales)
    (keepsDefault : kept site.locales.default)
    (keepsResolved :
      ∀ language, site.ResolvesTo request language → kept language)
    {error : RequestError}
    (fails : site.respond catalog tree request = .error error)
    (statistics : Statistics) :
    (site.revised locales statistics).errorResponse catalog error =
      site.errorResponse catalog error := by
  have keepsLanguage :
      ∀ url language, error = .notFound url language → kept language := by
    intro text language isNotFound
    subst isNotFound
    cases failsBy_of_respond fails with
    | nothing admitted =>
        exact keepsResolved _ ((resolvesTo_iff admitted).mpr rfl)
  have samePage :
      (site.revised locales statistics).errorPage catalog error =
        site.errorPage catalog error :=
    errorPage_revised agree keepsDefault keepsLanguage statistics
  unfold errorResponse
  rw [samePage]

/-- Of all targets only endpoints read the statistics. -/
theorem targetContent_revised
    {visit : Visit}
    (agree : visit.site.locales.AgreeOn kept locales)
    (keepsDefault : kept visit.site.locales.default)
    (keepsLanguage : kept visit.language)
    {statistics : Statistics}
    {target : Target}
    (unread :
      statistics = visit.site.statistics ∨
        ∀ route, target ≠ .endpoint route)
    (tree : FileTree) :
    targetContent (visit.revised locales statistics) tree target =
      targetContent visit tree target := by
  cases target with
  | endpoint route =>
      rcases unread with sameStatistics | noEndpoint
      · subst sameStatistics
        rfl
      · exact (noEndpoint route rfl).elim
  | page route =>
      have samePage :=
        Visit.renderPage_revised agree keepsDefault keepsLanguage
          statistics route.resource
      unfold targetContent
      dsimp only
      rw [samePage]
      rfl
  | file path =>
      rfl

theorem route_revised
    (agree : site.locales.AgreeOn kept locales)
    (statistics : Statistics)
    (tree : FileTree)
    (url : Url)
    (cookies : Option String) :
    (site.revised locales statistics).route tree url cookies =
      site.route tree url cookies := by
  have sameChoice :
      (site.revised locales statistics).locales.choose url cookies =
        site.locales.choose url cookies :=
    (agree.choose_eq url cookies).symm
  have sameTarget :
      (site.revised locales statistics).target? tree url.routePath =
        site.target? tree url.routePath :=
    rfl
  unfold route
  rw [sameChoice, sameTarget]

theorem respond_revised
    (agree : site.locales.AgreeOn kept locales)
    (keepsDefault : kept site.locales.default)
    (keepsResolved :
      ∀ language, site.ResolvesTo request language → kept language)
    (welcome :
      site.config.blocks request.address request.userAgent = false)
    {statistics : Statistics}
    (unread :
      statistics = site.statistics ∨
        ¬ site.RoutesToEndpoint tree request) :
    (site.revised locales statistics).respond catalog tree request =
      site.respond catalog tree request := by
  unfold respond
  have sameConfig : (site.revised locales statistics).config = site.config :=
    rfl
  rw [sameConfig]
  cases admitted : site.config.admitUrl request.url with
  | error refusal =>
      rfl
  | ok url =>
      simp only [bind, Except.bind, route_revised agree]
      cases routes : site.route tree url request.cookies with
      | error failure =>
          rfl
      | ok routed =>
          obtain ⟨target, targeted, rfl⟩ := route_eq_ok_iff.mp routes
          let visit : Visit :=
            { site
              catalog
              url
              language :=
                (site.locales.choose url request.cookies).language }
          have keepsLanguage : kept visit.language := by
            refine keepsResolved _ ((resolvesTo_iff admitted).mpr ?_)
            exact Locales.choose_language _ _ _
          have unreadHere :
              statistics = visit.site.statistics ∨
                ∀ route, target ≠ .endpoint route := by
            refine unread.imp id fun noEndpoint route isEndpoint => ?_
            subst isEndpoint
            exact noEndpoint ⟨welcome, url, route, admitted, targeted⟩
          have sameContent :
              targetContent (visit.revised locales statistics) tree
                  target =
                targetContent visit tree target :=
            targetContent_revised agree keepsDefault keepsLanguage
              unreadHere tree
          change
            (targetContent (visit.revised locales statistics) tree
                target).bind _ =
              (targetContent visit tree target).bind _
          rw [sameContent]
          rfl

/-- A request has the same answer on a site that is revised in what it does not read. -/
theorem answer_revised
    (agree : site.locales.AgreeOn kept locales)
    (keepsDefault : kept site.locales.default)
    (keepsResolved :
      ∀ language, site.ResolvesTo request language → kept language)
    {statistics : Statistics}
    (unread :
      statistics = site.statistics ∨
        ¬ site.RoutesToEndpoint tree request)
    (catalog : Catalog) :
    (site.revised locales statistics).answer catalog tree request =
      site.answer catalog tree request := by
  have sameConfig :
      (site.revised locales statistics).config = site.config :=
    rfl
  unfold answer
  rw [sameConfig]
  split
  · rfl
  · rename_i notBlocked
    have welcome :
        site.config.blocks request.address request.userAgent = false :=
      Bool.eq_false_iff.mpr notBlocked
    rw [respond_revised agree keepsDefault keepsResolved welcome unread]
    cases fails : site.respond catalog tree request with
    | ok response =>
        rfl
    | error error =>
        exact errorResponse_revised agree keepsDefault keepsResolved
          fails statistics

/--
Other languages and statistics do not leak into an answer.

Whatever the catalog is, a request has the same answer, in status, headers and body, on
two sites that differ only in the translations of languages other than the default one
and the one that the request is resolved to. Unless it leads to an endpoint, it has the
same answer on two sites that differ only in their statistics.
-/
theorem answer_eq_of_unread
    (site : Site)
    (catalog : Catalog)
    (tree : FileTree)
    (request : ClientRequest) :
    (∀ locales : Locales,
      site.locales.AgreeOn
          (fun code =>
            code = site.locales.default ∨ site.ResolvesTo request code)
          locales →
        ({ site with locales } : Site).answer catalog tree request =
          site.answer catalog tree request) ∧
    ∀ statistics : Statistics,
      ¬ site.RoutesToEndpoint tree request →
        (site.withStatistics statistics).answer catalog tree request =
          site.answer catalog tree request := by
  constructor
  · intro locales agree
    exact answer_revised agree (.inl rfl) (fun _ resolves => .inr resolves)
      (.inl rfl) catalog
  · intro statistics noEndpoint
    have agree : site.locales.AgreeOn (fun _ => True) site.locales :=
      { default := rfl
        names := rfl
        translations := fun _ _ _ => rfl }
    exact answer_revised agree trivial (fun _ _ => trivial)
      (.inr noEndpoint) catalog

/-- The languages of the small site with another French not-found message. -/
def revisedLocales : Locales where
  default := "en"
  languages := .ofList [
    ("en", {
      name := "English"
      translations := .ofList [
        ("search", .empty), ("news", .empty), ("shell", .empty),
        ("notfound", .ofTexts [("Message", "Missing")])] }),
    ("fr", {
      name := "French"
      translations := .ofList [
        ("notfound", .ofTexts [("Message", "Rien")])] })]

/--
A request in English sees neither another French message nor other statistics. The same
request in French does see the message.
-/
theorem answer_eq_of_unread_english :
    let catalog := (GameStore.ofGames []).catalog
    let other : Site := { smallSite with locales := revisedLocales }
    let request : ClientRequest :=
      ⟨"", "", "http://[::1]/nowhere", none⟩
    let french : ClientRequest :=
      ⟨"", "", "http://[::1]/nowhere?lang=fr", none⟩
    let statistics : Statistics :=
      { Statistics.empty .epoch with totalGames := 7 }
    smallSite.locales.AgreeOn
        (fun code =>
          code = smallSite.locales.default ∨
            smallSite.ResolvesTo request code)
        revisedLocales ∧
      ¬ smallSite.RoutesToEndpoint smallDisk request ∧
      other.answer catalog smallDisk request =
        smallSite.answer catalog smallDisk request ∧
      (smallSite.withStatistics statistics).answer catalog smallDisk
          request =
        smallSite.answer catalog smallDisk request ∧
      other.answer catalog smallDisk french ≠
        smallSite.answer catalog smallDisk french := by
  intro catalog other request french statistics
  let url : Url :=
    { scheme := "http".toList
      authority := some (.ofHost (.ipv6 [0, 0, 0, 0, 0, 0, 0, 1]))
      path := .segments ["nowhere".toList]
      query := none
      fragment := none }
  have admitted : smallSite.config.admitUrl request.url = .ok url := by
    apply eq_ok_of_toOption_eq_some
    decide +kernel
  have keepsEnglish :
      ∀ code,
        code = smallSite.locales.default ∨
            smallSite.ResolvesTo request code →
          code = "en" := by
    intro code isKept
    rcases isKept with isDefault | resolves
    · exact isDefault
    · exact (resolvesTo_iff admitted).mp resolves
  have agree :
      smallSite.locales.AgreeOn
        (fun code =>
          code = smallSite.locales.default ∨
            smallSite.ResolvesTo request code)
        revisedLocales := by
    refine { default := rfl, names := rfl, translations := ?_ }
    intro code isKept namespaceName
    cases keepsEnglish code isKept
    rfl
  have noEndpoint : ¬ smallSite.RoutesToEndpoint smallDisk request := by
    rintro ⟨-, other, route, isUrl, targeted⟩
    cases admitted.symm.trans isUrl
    have untargeted : smallSite.target? smallDisk url.routePath = none := by
      decide +kernel
    cases untargeted.symm.trans targeted
  have differs :
      other.answer catalog smallDisk french ≠
        smallSite.answer catalog smallDisk french := by
    intro same
    have bodies := congrArg Response.body same
    revert bodies
    decide +kernel
  obtain ⟨otherLanguages, otherStatistics⟩ :=
    answer_eq_of_unread smallSite catalog smallDisk request
  exact
    ⟨agree, noEndpoint, otherLanguages revisedLocales agree,
      otherStatistics statistics noEndpoint, differs⟩

end Site

end CatalogSite
