import CatalogSite.Catalog.Query
import CatalogSite.Files.Tree
import CatalogSite.Json.Reader
import CatalogSite.Json.Writer
import CatalogSite.Timestamp

namespace CatalogSite

/-!
# The catalog and its backing

Pages see a catalog through four queries, each of which may fail. The usual
backing is a list of entries, read from a file that a refresh reads again; a
missing file is an empty catalog. Statistics are collected from a catalog and
carry the time of their collection.
-/

/-- A cause that makes a catalog query or a refresh fail, with its detail. -/
inductive CatalogError where
  | io (detail : String)
  | malformed (detail : String)
  | backend (detail : String)
  deriving Repr, DecidableEq

/-- What a reader of entries says about a text that it refuses. -/
class RefusalWords where
  detail (text : String) : String

/-- What pages can ask a catalog. -/
structure Catalog where
  search : Query → Except CatalogError (List Game)
  find : String → Except CatalogError (Option Game)
  platforms : Except CatalogError (List String)
  totalGames : Except CatalogError Nat

/-- Keep the first of equal neighbours. -/
def dropRepeats : List String → List String
  | first :: second :: rest =>
      if first = second then dropRepeats (second :: rest)
      else first :: dropRepeats (second :: rest)
  | short => short

/-- A list of entries and the file that it comes from, if there is one. -/
structure GameStore where
  path : Option String
  games : List Game
  deriving Repr, DecidableEq

namespace GameStore

/-- Entries without a file. -/
def ofGames (games : List Game) : GameStore where
  path := none
  games := games

/-- Read the entries that the text of a file lists. -/
def readGames
    [RefusalWords]
    (text : String) :
    Except CatalogError (List Game) :=
  match (Json.ofText? text).bind Game.listOfJson? with
  | some games => .ok games
  | none => .error (.malformed (RefusalWords.detail text))

/-- Open a catalog file; what is no file is an empty catalog. -/
def openFile
    [RefusalWords]
    (tree : FileTree)
    (path : String) :
    Except CatalogError GameStore :=
  match tree.entry path with
  | .file content =>
      match content.text? with
      | some text =>
          (readGames text).map fun games => { path := some path, games }
      | none => .error (.io ReadError.notText.detail)
  | _ => .ok { path := some path, games := [] }

/-- Read the catalog file again; a file that has gone leaves an empty catalog. -/
def refresh
    [RefusalWords]
    (store : GameStore)
    (tree : FileTree) :
    Except CatalogError GameStore :=
  match store.path with
  | none => .ok store
  | some path =>
      match tree.readText path with
      | .ok text => (readGames text).map fun games => { store with games }
      | .error .missing => .ok { store with games := [] }
      | .error reason => .error (.io reason.detail)

/-- The names of all platforms, sorted and without repetition. -/
def platformNames (games : List Game) : List String :=
  dropRepeats
    ((games.flatMap Game.platforms).mergeSort
      fun first second => first ≤ second)

/-- The queries on a list of entries, which never fail. -/
def catalog (store : GameStore) : Catalog where
  search query := .ok (query.run store.games)
  find id := .ok (store.games.find? (·.id = id))
  platforms := .ok (platformNames store.games)
  totalGames := .ok store.games.length

end GameStore

/--
A catalog as a server holds it: entries that can be refreshed, or fixed queries.
-/
inductive CatalogBackend where
  | store (content : GameStore)
  | fixed (queries : Catalog)

namespace CatalogBackend

/-- The queries of a backend. -/
def catalog : CatalogBackend → Catalog
  | .store content => content.catalog
  | .fixed queries => queries

/-- Pick up new entries; fixed queries have none. -/
def refresh
    [RefusalWords]
    (tree : FileTree) :
    CatalogBackend → Except CatalogError CatalogBackend
  | .store content => (content.refresh tree).map .store
  | .fixed queries => .ok (.fixed queries)

end CatalogBackend

/-- Figures about a catalog. -/
structure Statistics where
  platforms : List String
  totalGames : Nat
  refreshedAt : Timestamp
  deriving Repr, DecidableEq

namespace Statistics

/-- The figures of a catalog without entries. -/
def empty (time : Timestamp) : Statistics where
  platforms := []
  totalGames := 0
  refreshedAt := time

/-- Collect the figures of a catalog. -/
def collect
    (catalog : Catalog)
    (time : Timestamp) :
    Except CatalogError Statistics := do
  let platforms ← catalog.platforms
  let totalGames ← catalog.totalGames
  .ok { platforms, totalGames, refreshedAt := time }

/-- The figures as a document. -/
def toJson (statistics : Statistics) : Json :=
  .object [
    ("platforms", .array (statistics.platforms.map .ofString)),
    ("totalGames", .ofNat statistics.totalGames),
    ("refreshedAt", .ofString statistics.refreshedAt.text)]

end Statistics

end CatalogSite
