import CatalogSite.Text.Substring

namespace CatalogSite

/-!
# Route tables

A route serves a resource under a declared path, and a lenient one serves it
below that path too. The route declared for exactly the wanted path comes first;
otherwise the first lenient route whose path ends at the border of a segment.
-/

/-- A resource, and whether the paths below its own lead to it too. -/
structure Route (α : Type) where
  resource : α
  lenient : Bool
  deriving Repr, DecidableEq

/-- The routes in the order of their declaration, behind their paths. -/
structure RouteTable (α : Type) where
  entries : List (String × Route α)
  deriving Repr, DecidableEq

/-- Whether a path lies at or below a declared one, segments being whole. -/
def liesBelow (declared path : List Char) : Bool :=
  match Text.dropPrefix? declared path with
  | none => false
  | some rest =>
      rest.isEmpty || declared.getLast? == some '/' || Text.startsWith ['/'] rest

namespace RouteTable

variable {α : Type}

/-- The table without routes. -/
def empty : RouteTable α where
  entries := []

/-- The first route declared for exactly a path. -/
def exactRoute?
    (table : RouteTable α)
    (path : String) :
    Option (Route α) :=
  (table.entries.find? fun entry => entry.1 = path).map Prod.snd

/-- The first lenient route that a path lies at or below. -/
def lenientRoute?
    (table : RouteTable α)
    (path : String) :
    Option (Route α) :=
  (table.entries.find? fun entry =>
    entry.2.lenient && liesBelow entry.1.toList path.toList).map Prod.snd

/-- The route that serves a path. -/
def find?
    (table : RouteTable α)
    (path : String) :
    Option (Route α) :=
  match table.exactRoute? path with
  | some route => some route
  | none => table.lenientRoute? path

end RouteTable

end CatalogSite
