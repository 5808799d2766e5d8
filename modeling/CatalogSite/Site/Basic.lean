import CatalogSite.Catalog.Store
import CatalogSite.Config
import CatalogSite.Locale.Choice
import CatalogSite.Route.Target
import CatalogSite.Site.Handler
import CatalogSite.Template.Store

namespace CatalogSite

/-!
# Sites

A site bundles everything that answers depend on besides the catalog and the
disk. It is assembled once and never changes: new statistics make a new site.
Assembling fixes the handler of every declared namespace, and refuses a page that
only an endpoint could use and an endpoint that nothing serves.
-/

/-- A page: its namespace, what it links to, and the fragments it renders. -/
structure Page where
  namespaceName : String
  styles : List String
  scripts : List String
  fragments : List String
  deriving Repr, DecidableEq

/-- An endpoint: the namespace that serves it and the type of its content. -/
structure Endpoint where
  namespaceName : String
  contentType : String
  deriving Repr, DecidableEq

namespace Page

/-- The page of a namespace that links to nothing. -/
def bare (namespaceName : String) : Page where
  namespaceName := namespaceName
  styles := []
  scripts := []
  fragments := []

/-- Read the route of a page. -/
def routeOfJson? (document : Json) : Option (Route Page) := do
  let texts := Json.orDefault Json.texts? []
  match ←
    document.fields?
      ["namespace", "styles", "scripts", "fragments", "lenient"] with
  | [namespaceName, styles, scripts, fragments, lenient] =>
      some {
        resource := {
          namespaceName := ← Json.required Json.text? namespaceName
          styles := ← texts styles
          scripts := ← texts scripts
          fragments := ← texts fragments
        }
        lenient := ← Json.orDefault Json.bool? false lenient
      }
  | _ => none

end Page

/-- Read the route of an endpoint. -/
def Endpoint.routeOfJson? (document : Json) : Option (Route Endpoint) := do
  match ← document.fields? ["namespace", "type", "lenient"] with
  | [namespaceName, contentType, lenient] =>
      some {
        resource := {
          namespaceName := ← Json.required Json.text? namespaceName
          contentType := ← Json.required Json.text? contentType
        }
        lenient := ← Json.orDefault Json.bool? false lenient
      }
  | _ => none

/-- Everything that answers depend on besides the catalog and the disk. -/
structure Site where
  config : Config
  templates : Template.Store
  locales : Locales
  pages : RouteTable Page
  endpoints : RouteTable Endpoint
  hiddenTags : List String
  statistics : Statistics
  handlers : Dictionary Handler
  deriving DecidableEq

namespace Site

/-- Fix the handlers of the namespaces that pages use. -/
def registerPages
    (handlers : Dictionary Handler) :
    List (String × Route Page) → Except LoadError (Dictionary Handler)
  | [] => .ok handlers
  | (path, route) :: rest =>
      let name := route.resource.namespaceName
      if (Handler.ofNamespace name).isEndpointOnly then
        .error (.endpointOnlyPage path name)
      else registerPages (handlers.insert name (.ofNamespace name)) rest

/-- Fix the handlers of the namespaces that serve endpoints. -/
def registerEndpoints
    (handlers : Dictionary Handler) :
    List (String × Route Endpoint) → Except LoadError (Dictionary Handler)
  | [] => .ok handlers
  | (path, route) :: rest =>
      let name := route.resource.namespaceName
      if (Handler.ofNamespace name).servesEndpoints then
        registerEndpoints (handlers.insert name (.ofNamespace name)) rest
      else
        .error (.unservedEndpoint path name)

/-- Assemble a site. -/
def assemble
    (config : Config)
    (templates : Template.Store)
    (locales : Locales)
    (pages : RouteTable Page)
    (endpoints : RouteTable Endpoint)
    (hiddenTags : List String)
    (statistics : Statistics) :
    Except LoadError Site := do
  let registered ← registerPages .empty pages.entries
  let handlers ← registerEndpoints registered endpoints.entries
  .ok
    { config, templates, locales, pages, endpoints, hiddenTags, statistics,
      handlers }

/-- The same site with other statistics. -/
def withStatistics
    (site : Site)
    (statistics : Statistics) :
    Site :=
  { site with statistics }

/--
The handler fixed for a namespace; a namespace that is not declared has none of its
own.
-/
def handler
    (site : Site)
    (namespaceName : String) :
    Handler :=
  (site.handlers.get? namespaceName).getD .plain

end Site

end CatalogSite
