namespace CatalogSite

/-!
# Handlers

The dynamic part of a namespace: the search and the view of one game add
definitions to a page, the search information is an endpoint, and every other
namespace consists of its translations alone.
-/

/-- What a namespace does beyond its translations. -/
inductive Handler where
  | search
  | view
  | searchInfo
  | plain
  deriving Repr, DecidableEq

namespace Handler

/-- The handler that the name of a namespace stands for. -/
def ofNamespace : String → Handler
  | "search" => .search
  | "view" => .view
  | "searchinfo" => .searchInfo
  | _ => .plain

/-- The name of a handler. -/
def name : Handler → String
  | .search => "Search"
  | .view => "View"
  | .searchInfo => "SearchInfo"
  | .plain => "Plain"

/-- Whether a handler adds definitions to a page. -/
def providesDefinitions : Handler → Bool
  | .search | .view => true
  | .searchInfo | .plain => false

/-- Whether a handler answers for an endpoint. -/
def servesEndpoints : Handler → Bool
  | .searchInfo => true
  | .search | .view | .plain => false

/-- Whether no page can use a handler. -/
def isEndpointOnly (handler : Handler) : Bool :=
  !handler.providesDefinitions && handler ≠ .plain

end Handler

end CatalogSite
