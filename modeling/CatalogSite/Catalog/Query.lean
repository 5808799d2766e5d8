import CatalogSite.Catalog.Filter
import CatalogSite.Text.Blank

namespace CatalogSite

/-!
# Queries

A query selects entries by terms, filters and excluded tags, orders them and cuts
the list. An entry is selected when it carries no excluded tag, every term occurs
in it, it passes every exclusion, and it passes all of the other filters, or any
one of them if the query says so.
-/

/-- A column that results can be ordered by. -/
inductive SortColumn where
  | title
  | developer
  | publisher
  | series
  | platform
  | releaseDate
  | dateAdded
  | dateModified
  deriving Repr, DecidableEq

namespace SortColumn

/-- The column that a name stands for, whatever the case of its ASCII letters. -/
def ofName? (name : String) : Option SortColumn :=
  match Text.asciiLowercase name with
  | "title" => some .title
  | "developer" => some .developer
  | "publisher" => some .publisher
  | "series" => some .series
  | "platform" => some .platform
  | "releasedate" => some .releaseDate
  | "dateadded" => some .dateAdded
  | "datemodified" => some .dateModified
  | _ => none

/-- The text that entries are ordered by in a column. -/
def key
    (column : SortColumn)
    (game : Game) :
    String :=
  match column with
  | .title => Text.lowercase game.title
  | .developer => Text.lowercase game.developer
  | .publisher => Text.lowercase game.publisher
  | .series => Text.lowercase game.series
  | .platform => Text.lowercase (Text.joinWith "/" game.platforms)
  | .releaseDate => game.releaseDate
  | .dateAdded => game.dateAdded
  | .dateModified => game.dateModified

end SortColumn

/-- A column and a direction. -/
structure SearchOrder where
  column : SortColumn
  descending : Bool
  deriving Repr, DecidableEq

/-- What entries are looked for. -/
structure Query where
  terms : List String := []
  filters : List Filter := []
  matchAny : Bool := false
  excludedTags : List String := []
  order : Option SearchOrder := none
  limit : Nat := 0
  deriving Repr, DecidableEq

namespace Query

/-- The query whose terms are the words of a text. -/
def ofInput (input : String) : Query where
  terms :=
    (Text.words input.toList).map fun word =>
      Text.lowercase (String.ofList word)

/-- Whether an entry carries one of some tags. -/
def carriesTag
    (tags : List String)
    (game : Game) :
    Bool :=
  game.tags.any fun tag => tags.any (Text.equalsIgnoringAsciiCase · tag)

/--
Whether a term occurs in the title, a creator, the series or a tag of an entry.
-/
def termOccurs
    (game : Game)
    (term : String) :
    Bool :=
  [game.title, game.developer, game.publisher, game.series].any
      (Filter.containsLowercase term) ||
    game.tags.any (Filter.containsLowercase term)

/-- Whether an entry passes the filters of a query. -/
def filtersAdmit
    (query : Query)
    (game : Game) :
    Bool :=
  let exclusions := query.filters.filter Filter.isExclusion
  let inclusions := query.filters.filter (!Filter.isExclusion ·)
  exclusions.all (Filter.admits · game) &&
    (inclusions.isEmpty ||
      if query.matchAny then inclusions.any (Filter.admits · game)
      else inclusions.all (Filter.admits · game))

/-- Whether a query selects an entry. -/
def selects
    (query : Query)
    (game : Game) :
    Bool :=
  !carriesTag query.excludedTags game && query.terms.all (termOccurs game) &&
    query.filtersAdmit game

/-- Whether an entry may stand before another one. -/
def mayPrecede
    (query : Query)
    (first second : Game) :
    Bool :=
  match query.order with
  | none => SortColumn.title.key first ≤ SortColumn.title.key second
  | some order =>
      if order.descending then order.column.key second ≤ order.column.key first
      else order.column.key first ≤ order.column.key second

/-- The first entries of a list, or all of them when there is no limit. -/
def cut
    {α : Type}
    (limit : Nat)
    (results : List α) :
    List α :=
  if limit = 0 then results else results.take limit

/--
The entries that a query selects, in order; entries with one key keep their order.
-/
def run
    (query : Query)
    (games : List Game) :
    List Game :=
  cut query.limit ((games.filter query.selects).mergeSort query.mayPrecede)

end Query

end CatalogSite
