import CatalogSite.Text.Blank
import CatalogSite.Text.Substring
import CatalogSite.Url.Address

namespace CatalogSite.Url

/-!
# Tables of characters

A table lists code points in increasing order, each row one of them or a range, and
what the code points of a row stand for.
-/

/-- A row of a character table. -/
structure DomainRow where
  first : Nat
  last : Nat
  step : Nat
  target : List Nat
  deriving Repr, DecidableEq

namespace DomainRow

/-- The code point that a hexadecimal text names. -/
def pointOfText (text : List Char) : Nat :=
  (numberInBase? 16 text).getD 0

/-- Read a row. -/
def ofText (text : List Char) : DomainRow :=
  let (range, target) := Text.splitFirst '>' text
  let (bounds, step) := Text.splitFirst '/' range
  let (first, last) := Text.splitFirst '-' bounds
  let first := pointOfText first
  {
    first
    last := (last.map pointOfText).getD first
    step := (step.map pointOfText).getD 1
    target :=
      (target.map fun points =>
        (points.splitOnP (· == '.')).map pointOfText).getD []
  }

/-- Read the rows of a table. -/
def tableOfText (text : String) : List DomainRow :=
  (Text.words text.toList).map ofText

/-- The row for a code point in a table in increasing order. -/
def find? (point : Nat) : List DomainRow → Option DomainRow
  | [] => none
  | row :: rest =>
      if point < row.first then none
      else if point ≤ row.last ∧ (point - row.first) % row.step = 0 then some row
      else find? point rest

/-- What a code point of a row stands for. -/
def targetOf
    (row : DomainRow)
    (point : Nat) :
    List Nat :=
  match row.target with
  | [target] => [target + (point - row.first)]
  | target => target

end DomainRow

end CatalogSite.Url
