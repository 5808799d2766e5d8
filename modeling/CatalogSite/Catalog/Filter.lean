import CatalogSite.Catalog.Game
import CatalogSite.Text.Lowercase
import CatalogSite.Text.Substring

namespace CatalogSite

/-!
# Filters

A filter is one row of the advanced search: a field, a comparison and a value.
Text comparisons ask whether some text of the field contains the value, up to
letter case, or equals it, up to the case of ASCII letters. Dates are compared
as texts, and an entry without the date satisfies no date filter.
-/

/-- A field that can be searched. -/
inductive SearchField where
  | title
  | series
  | developer
  | publisher
  | platform
  | tags
  | library
  | releaseDate
  | dateAdded
  | dateModified
  | format
  deriving Repr, DecidableEq

namespace SearchField

/-- The field that a name stands for. -/
def ofName? : String → Option SearchField
  | "title" => some .title
  | "series" => some .series
  | "developer" => some .developer
  | "publisher" => some .publisher
  | "platform" => some .platform
  | "tags" => some .tags
  | "tag" => some .tags
  | "library" => some .library
  | "releaseDate" => some .releaseDate
  | "dateAdded" => some .dateAdded
  | "dateModified" => some .dateModified
  | "format" => some .format
  | _ => none

/-- Whether a field holds a date. -/
def isDate : SearchField → Bool
  | .releaseDate | .dateAdded | .dateModified => true
  | _ => false

/-- The texts of a field in an entry. -/
def texts
    (field : SearchField)
    (game : Game) :
    List String :=
  match field with
  | .title => [game.title]
  | .series => [game.series]
  | .developer => [game.developer]
  | .publisher => [game.publisher]
  | .platform => game.platforms
  | .tags => game.tags
  | .library => [game.library]
  | .releaseDate => [game.releaseDate]
  | .dateAdded => [game.dateAdded]
  | .dateModified => [game.dateModified]
  | .format => []

/-- The date of a field in an entry, if it has one. -/
def date?
    (field : SearchField)
    (game : Game) :
    Option String :=
  match field.texts game with
  | [] => none
  | date :: _ => if date.isEmpty then none else some date

end SearchField

/-- A condition on one field of an entry. -/
inductive Filter where
  | contains (field : SearchField) (value : String)
  | notContains (field : SearchField) (value : String)
  | exactly (field : SearchField) (value : String)
  | notExactly (field : SearchField) (value : String)
  | before (field : SearchField) (value : String)
  | after (field : SearchField) (value : String)
  | on (field : SearchField) (value : String)
  | packaged (expected : Bool)
  deriving Repr, DecidableEq

namespace Filter

/-- Whether a text contains an already lowercase part, up to letter case. -/
def containsLowercase (part text : String) : Bool :=
  Text.occursIn part.toList (Text.lowercase text).toList

/-- Whether some text of a field contains a value, up to letter case. -/
def containsIn
    (game : Game)
    (field : SearchField)
    (value : String) :
    Bool :=
  (field.texts game).any (containsLowercase (Text.lowercase value))

/-- Whether some text of a field equals a value, up to the case of ASCII letters. -/
def exactlyIn
    (game : Game)
    (field : SearchField)
    (value : String) :
    Bool :=
  (field.texts game).any (Text.equalsIgnoringAsciiCase · value)

/-- Whether an entry has a date in a field that satisfies a test. -/
def dateIn
    (game : Game)
    (field : SearchField)
    (test : String → Bool) :
    Bool :=
  match field.date? game with
  | some date => test date
  | none => false

/-- Whether an entry satisfies a filter. -/
def admits
    (filter : Filter)
    (game : Game) :
    Bool :=
  match filter with
  | .contains field value => containsIn game field value
  | .notContains field value => !containsIn game field value
  | .exactly field value => exactlyIn game field value
  | .notExactly field value => !exactlyIn game field value
  | .before field value => dateIn game field fun date => date < value
  | .after field value => dateIn game field fun date => value < date
  | .on field value =>
      dateIn game field fun date =>
        Text.startsWith value.toList date.toList
  | .packaged expected => decide (0 < game.gameData) == expected

/-- Whether a filter leaves entries out even when any filter may match. -/
def isExclusion : Filter → Bool
  | .notContains .. | .notExactly .. => true
  | _ => false

/-- The filter of a search row; a row without a meaning is no filter. -/
def ofRow? (field comparison value : String) : Option Filter := do
  let field ← SearchField.ofName? field
  if field = .format then
    match comparison, value with
    | "exactly", "GameZIP" => some (.packaged true)
    | "exactly", "Legacy" => some (.packaged false)
    | _, _ => none
  else if field.isDate then
    match comparison with
    | "lower" => some (.before field value)
    | "higher" => some (.after field value)
    | "equals" => some (.on field value)
    | _ => none
  else
    match comparison with
    | "contains" => some (.contains field value)
    | "notContains" => some (.notContains field value)
    | "exactly" => some (.exactly field value)
    | "notExactly" => some (.notExactly field value)
    | _ => none

end Filter

end CatalogSite
