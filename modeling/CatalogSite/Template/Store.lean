import CatalogSite.Dictionary
import CatalogSite.Files.Tree
import CatalogSite.Setup

namespace CatalogSite.Template

/-!
# Template store

Templates belong to a namespace: one main template and named fragments. A
namespace is loaded as a whole, from `<namespace>.html` and one
`<namespace>_<fragment>.html` per fragment, and replaces what the store held for
it. A load that fails changes nothing.
-/

/-- The namespace of the shell that surrounds every page. -/
def shellNamespace : String := "shell"

/-- The namespace of the minimal error page. -/
def errorNamespace : String := "error"

/-- The namespace of the localized not-found content. -/
def notFoundNamespace : String := "notfound"

/-- The templates of one namespace. -/
structure NamespaceTemplates where
  main : String
  fragments : Dictionary String
  deriving DecidableEq

/-- The templates of all namespaces. -/
structure Store where
  namespaces : Dictionary NamespaceTemplates
  deriving DecidableEq

namespace Store

/-- The store without templates. -/
def empty : Store where
  namespaces := .empty

/-- Put the templates of a namespace in place of its former ones. -/
def insert
    (store : Store)
    (namespaceName : String)
    (templates : NamespaceTemplates) :
    Store where
  namespaces := store.namespaces.insert namespaceName templates

/-- The main template of a namespace. -/
def main?
    (store : Store)
    (namespaceName : String) :
    Option String :=
  (store.namespaces.get? namespaceName).map NamespaceTemplates.main

/-- A fragment of a namespace. -/
def fragment?
    (store : Store)
    (namespaceName fragment : String) :
    Option String :=
  (store.namespaces.get? namespaceName).bind fun templates =>
    templates.fragments.get? fragment

/-- The file of a main template. -/
def mainPath (directory namespaceName : String) : String :=
  Path.join directory (namespaceName ++ ".html")

/-- The file of a fragment. -/
def fragmentPath (directory namespaceName fragment : String) : String :=
  Path.join directory (namespaceName ++ "_" ++ fragment ++ ".html")

/-- Read one template file. -/
def readTemplate
    (tree : FileTree)
    (path : String) :
    Except LoadError String :=
  match tree.text? path with
  | some text => .ok text
  | none => .error (.unreadableTemplate path)

/-- Read the fragments of a namespace, in order. -/
def readFragments
    (tree : FileTree)
    (directory namespaceName : String) :
    Dictionary String → List String → Except LoadError (Dictionary String)
  | loaded, [] => .ok loaded
  | loaded, fragment :: rest => do
      let text ← readTemplate tree (fragmentPath directory namespaceName fragment)
      readFragments tree directory namespaceName (loaded.insert fragment text) rest

/-- Load all templates of a namespace. -/
def load
    (store : Store)
    (tree : FileTree)
    (directory namespaceName : String)
    (fragments : List String) :
    Except LoadError Store := do
  let main ← readTemplate tree (mainPath directory namespaceName)
  let fragments ← readFragments tree directory namespaceName .empty fragments
  .ok (store.insert namespaceName { main, fragments })

end Store

end CatalogSite.Template
