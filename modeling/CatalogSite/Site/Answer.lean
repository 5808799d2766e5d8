import CatalogSite.Content.Shell
import CatalogSite.Http.MediaType
import CatalogSite.Http.Request
import CatalogSite.Http.Response
import CatalogSite.Site.Routing

namespace CatalogSite.Site

/-!
# Answers

Every request gets an answer. A client that is turned away sees the bare not-found
page. Any other request is admitted, routed and rendered, and a failure on the way
becomes an error page; only a success may be cached and may set the cookie that
remembers a language.
-/

/-- The content of a target. -/
def targetContent
    (visit : Visit)
    (tree : FileTree) :
    Target → Except RequestError Response
  | .endpoint route => do
      let body ← (visit.site.handler route.resource.namespaceName).respond visit
      .ok (.ofContent route.resource.contentType (.text body))
  | .page route => do
      let body ← visit.renderPage route.resource
      .ok ((Response.html .ok body).inLanguage visit.language)
  | .file path =>
      match tree.content? path with
      | some content => .ok (.ofContent (Http.mediaTypeOfPath path) content)
      | none => .error (.internal (.unreadableFile path))

/-- How long an answer may be cached. -/
def cacheText (site : Site) : String :=
  "max-age=" ++ toString site.config.cacheMaxAge

/-- Let a successful answer be cached, and remember a language chosen in the URL. -/
def finished
    (site : Site)
    (choice : LanguageChoice)
    (response : Response) :
    Response :=
  { response with
    headers := { response.headers with
      cacheControl := headerValue? site.cacheText
      setCookie :=
        if choice.persist then
          headerValue? (Cookie.setting languageKey choice.language)
        else none } }

/-- Answer a request, unless it fails. -/
def respond
    (site : Site)
    (catalog : Catalog)
    (tree : FileTree)
    (request : ClientRequest) :
    Except RequestError Response := do
  let url ← site.config.admitUrl request.url
  let routed ← site.route tree url request.cookies
  let visit : Visit :=
    { site
      catalog
      url := routed.url
      language := routed.choice.language }
  let response ← targetContent visit tree routed.target
  .ok (site.finished routed.choice response)

/-- The answer to a client that is turned away. -/
def blockedResponse (site : Site) : Response :=
  .html .notFound
    (site.minimalErrorPage .notFound "The requested URL does not exist.")

/-- The answer that shows a failure. -/
def errorResponse
    (site : Site)
    (catalog : Catalog)
    (error : RequestError) :
    Response :=
  let response := Response.html error.status (site.errorPage catalog error)
  match error with
  | .notFound _ language => response.inLanguage language
  | _ => response

/-- The answer to a request. -/
def answer
    (site : Site)
    (catalog : Catalog)
    (tree : FileTree)
    (request : ClientRequest) :
    Response :=
  if site.config.blocks request.address request.userAgent then
    site.blockedResponse
  else
    match site.respond catalog tree request with
    | .ok response => response
    | .error error => site.errorResponse catalog error

end CatalogSite.Site
