import CatalogSite.Text.Blank
import CatalogSite.Text.Substring

namespace CatalogSite.Template

/-!
# Elements

An element parameter holds the text between its outer angle brackets: a tag name
and attributes, or several such tags joined by `><`. Written plainly it gives the
opening tag; wrapped around a text it also closes its tags in reverse order.
-/

/--
The name of a tag: the characters before its first blank.

A tag has to start with its name and has to stand on one line.
-/
def tagName? (tag : List Char) : Option (List Char) :=
  match tag with
  | [] => none
  | first :: _ =>
      if Text.isBlank first || tag.contains '\n' then none
      else some (tag.takeWhile (!Text.isBlank ·))

/-- The opening tag of an element. -/
def openingTag? (element : List Char) : Option (List Char) :=
  (tagName? element).map fun _ => '<' :: (element ++ ['>'])

/-- The single tags of an element, which are joined by `><`. -/
def tags : List Char → List (List Char)
  | [] => [[]]
  | '>' :: '<' :: rest => [] :: tags rest
  | c :: rest =>
      match tags rest with
      | first :: others => (c :: first) :: others
      | [] => [[c]]

/-- Wrap a text into one tag; a tag without a name changes nothing. -/
def wrapInTag (tag inner : List Char) : List Char :=
  match tagName? tag with
  | some name => '<' :: (tag ++ '>' :: (inner ++ '<' :: '/' :: (name ++ ['>'])))
  | none => inner

/-- Wrap a text into all tags of an element, if that changes it. -/
def wrap? (element inner : List Char) : Option (List Char) :=
  let wrapped := (tags element).foldr wrapInTag inner
  if wrapped = inner then none else some wrapped

end CatalogSite.Template
