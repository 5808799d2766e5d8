import CatalogSite.Route.Access
import CatalogSite.Site.Basic

namespace CatalogSite

/-!
# Routing

A request whose URL is admitted gets a language and a target: an endpoint, else a
page, else a file of the static directory. Without a target there is nothing for it
to find.
-/

/-- Where a request leads. -/
inductive Target where
  | endpoint (route : Route Endpoint)
  | page (route : Route Page)
  | file (path : String)
  deriving Repr, DecidableEq

/-- A request with its language and its target. -/
structure Routed where
  url : Url
  choice : LanguageChoice
  target : Target
  deriving Repr, DecidableEq

namespace Site

/-- The target of a path without slashes at its ends. -/
def target?
    (site : Site)
    (tree : FileTree)
    (path : String) :
    Option Target :=
  match site.endpoints.find? ("/" ++ path) with
  | some route => some (.endpoint route)
  | none =>
      match site.pages.find? ("/" ++ path) with
      | some route => some (.page route)
      | none => (tree.servedFile? site.config.staticDir path).map .file

/-- Route an admitted URL. -/
def route
    (site : Site)
    (tree : FileTree)
    (url : Url)
    (cookies : Option String) :
    Except RequestError Routed :=
  let choice := site.locales.choose url cookies
  match site.target? tree url.routePath with
  | some target => .ok { url, choice, target }
  | none => .error (.notFound url.text choice.language)

end Site

end CatalogSite
