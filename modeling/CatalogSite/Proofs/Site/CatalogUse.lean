import CatalogSite.Proofs.Site.Assembled
import CatalogSite.Site.Answer

namespace CatalogSite

/-!
# What an answer asks of the catalog

Only the handler of the content asks the catalog for anything. The namespaces of
the shell and of the not-found content stand for no handler, so what these two show
comes from their translations alone, and the page that shows a failure is the same
for every catalog. Two catalogs that give a target the same content therefore give a
request the same answer.
-/

namespace Visit

/-- The same visit to a site with another catalog. -/
def withCatalog
    (visit : Visit)
    (catalog : Catalog) :
    Visit :=
  { visit with catalog }

/-- The definitions of a namespace ask the catalog for what its handler provides. -/
theorem definitions_withCatalog
    {visit : Visit}
    {name : String}
    {other : Catalog}
    (sameProvided :
      (visit.site.handler name).provide (visit.withCatalog other)
          (visit.translations name) =
        (visit.site.handler name).provide visit
          (visit.translations name)) :
    (visit.withCatalog other).definitions name =
      visit.definitions name :=
  congrArg
    (fun result => do
      let provided ← result
      .ok ((visit.translations name).overlay provided))
    sameProvided

/-- A namespace without a handler asks the catalog for nothing. -/
theorem definitions_withCatalog_of_plain
    {visit : Visit}
    {name : String}
    (plain : visit.site.handler name = .plain)
    (other : Catalog) :
    (visit.withCatalog other).definitions name =
      visit.definitions name := by
  apply definitions_withCatalog
  rw [plain]
  rfl

/--
A page asks the catalog for no more than its content does, since the shell has no
handler.
-/
theorem renderPage_withCatalog
    {visit : Visit}
    {page : Page}
    {other : Catalog}
    (assembled : visit.site.Assembled)
    (sameContent :
      (visit.withCatalog other).definitions page.namespaceName =
        visit.definitions page.namespaceName) :
    (visit.withCatalog other).renderPage page =
      visit.renderPage page := by
  have sameShell :
      (visit.withCatalog other).definitions
          Template.shellNamespace =
        visit.definitions Template.shellNamespace :=
    definitions_withCatalog_of_plain
      (assembled.handler_eq_plain rfl) other
  unfold renderPage
  rw [sameContent, sameShell]
  rfl

end Visit

namespace Site

/-- The page that shows a failure asks the catalog for nothing. -/
theorem Assembled.errorPage_eq
    {site : Site}
    (assembled : site.Assembled)
    (first second : Catalog)
    (error : RequestError) :
    site.errorPage first error = site.errorPage second error := by
  cases error with
  | refused reason =>
      rfl
  | internal fault =>
      rfl
  | notFound url language =>
      have samePage :
          site.notFoundPage first url language =
            site.notFoundPage second url language := by
        unfold notFoundPage
        cases Url.parse url with
        | error cause =>
            rfl
        | ok parsed =>
            let visit : Visit :=
              { site, catalog := second, url := parsed, language }
            have sameContent :
                (visit.withCatalog first).definitions
                    Template.notFoundNamespace =
                  visit.definitions Template.notFoundNamespace :=
              Visit.definitions_withCatalog_of_plain
                (assembled.handler_eq_plain rfl) first
            have samePage :
                (visit.withCatalog first).renderPage
                    (.bare Template.notFoundNamespace) =
                  visit.renderPage (.bare Template.notFoundNamespace) :=
              Visit.renderPage_withCatalog assembled sameContent
            exact samePage
      simp only [errorPage, samePage]

/-- The answer to a failed request asks the catalog for nothing. -/
theorem Assembled.errorResponse_eq
    {site : Site}
    (assembled : site.Assembled)
    (first second : Catalog)
    (error : RequestError) :
    site.errorResponse first error =
      site.errorResponse second error := by
  unfold errorResponse
  rw [assembled.errorPage_eq first second error]

theorem route_url
    {site : Site}
    {tree : FileTree}
    {url : Url}
    {cookies : Option String}
    {routed : Routed}
    (routes : site.route tree url cookies = .ok routed) :
    routed.url = url := by
  unfold route at routes
  dsimp only at routes
  split at routes
  · rw [← Except.ok.inj routes]
  · cases routes

/--
A routed request has the same answer for two catalogs that give its target the same
content.
-/
theorem Assembled.answer_eq
    {site : Site}
    {first second : Catalog}
    {tree : FileTree}
    {request : ClientRequest}
    {url : Url}
    {routed : Routed}
    (assembled : site.Assembled)
    (admitted : site.config.admitUrl request.url = .ok url)
    (routes : site.route tree url request.cookies = .ok routed)
    (sameContent :
      targetContent
          { site
            catalog := first
            url := routed.url
            language := routed.choice.language }
          tree routed.target =
        targetContent
          { site
            catalog := second
            url := routed.url
            language := routed.choice.language }
          tree routed.target) :
    site.answer first tree request = site.answer second tree request := by
  have sameResponse :
      site.respond first tree request =
        site.respond second tree request := by
    simp only [respond, admitted, routes, sameContent, bind,
      Except.bind]
  unfold answer
  rw [sameResponse]
  cases site.respond second tree request with
  | ok response =>
      rfl
  | error error =>
      simp only [assembled.errorResponse_eq first second error]

end Site

end CatalogSite
