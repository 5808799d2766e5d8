import CatalogSite.Site.Basic

namespace CatalogSite

/-!
# Loading a site

The pages, the endpoints and the hidden tags come from one file each, the last of
which may be missing. Translations are loaded for the namespaces of all pages and
for those of the shell and the not-found content; templates for all pages, and
after them for the shell, the error page and the not-found content.
-/

/-- Load one template namespace after the other, each with its fragments. -/
def Template.Store.loadAll
    (tree : FileTree)
    (directory : String) :
    Template.Store → List (String × List String) → Except LoadError Template.Store
  | store, [] => .ok store
  | store, (namespaceName, fragments) :: rest => do
      let next ← store.load tree directory namespaceName fragments
      loadAll tree directory next rest

namespace Site

/-- Read a file that holds a document of the wanted form. -/
def readDocument
    {α : Type}
    (tree : FileTree)
    (path : String)
    (read? : Json → Option α) :
    Except LoadError α :=
  match tree.text? path with
  | none => .error (.unreadableFile path)
  | some text =>
      match (Json.ofText? text).bind read? with
      | some value => .ok value
      | none => .error (.malformedFile path)

/-- Read the tags to hide; without a file there are none. -/
def readHiddenTags
    (tree : FileTree)
    (path : String) :
    Except LoadError (List String) :=
  if tree.isFile path then readDocument tree path Json.texts? else .ok []

/-- The pages of a table, in order. -/
def pagesOf (pages : Dictionary (Route Page)) : List Page :=
  pages.values.map Route.resource

/-- The namespaces that need translations, each once. -/
def translatedNamespaces (pages : List Page) : List String :=
  (pages.map Page.namespaceName ++
    [Template.shellNamespace, Template.notFoundNamespace]).eraseDups

/--
The namespaces that need templates, with their fragments, in the order of loading.
-/
def templateRequests (pages : List Page) : List (String × List String) :=
  pages.map (fun page => (page.namespaceName, page.fragments)) ++
    [(Template.shellNamespace, []), (Template.errorNamespace, []),
      (Template.notFoundNamespace, [])]

/-- Load a site from the files that its configuration names. -/
def load
    (tree : FileTree)
    (config : Config)
    (statistics : Statistics) :
    Except LoadError Site := do
  let pages ←
    readDocument tree config.pagesFile (Json.dictionary? Page.routeOfJson?)
  let endpoints ←
    readDocument tree config.endpointsFile
      (Json.dictionary? Endpoint.routeOfJson?)
  let hiddenTags ← readHiddenTags tree config.filterFile
  let locales ← Locales.load tree config.localesFile config.localesDir
    (translatedNamespaces (pagesOf pages)) config.defaultLang
  let templates ← Template.Store.loadAll tree config.templatesDir .empty
    (templateRequests (pagesOf pages))
  assemble config templates locales { entries := pages.entries }
    { entries := endpoints.entries }
    hiddenTags statistics

end Site

end CatalogSite
