import CatalogSite.Url.DomainData
import CatalogSite.Url.DomainRow

namespace CatalogSite.Url

/-!
# Reading directions and joins in domain names

Once a domain name holds a character that is written from right to left, each of
its labels has to read in one direction only. An invisible joiner may stand only
where it changes how the letters around it are written.
-/

/-- How a character takes part in the direction of a text. -/
inductive Direction
  | leftToRight
  | rightToLeft
  | arabicDigit
  | europeanDigit
  | neutral
  | nonspacing
  deriving Repr, DecidableEq

/-- The characters of each direction but from left to right. -/
def directionRows : List (Direction × List DomainRow) :=
  [
    (.rightToLeft, DomainRow.tableOfText rightToLeftText),
    (.arabicDigit, DomainRow.tableOfText arabicDigitText),
    (.europeanDigit, DomainRow.tableOfText europeanDigitText),
    (.neutral, DomainRow.tableOfText neutralText),
    (.nonspacing, DomainRow.tableOfText nonspacingText)
  ]

/-- The direction of a character. -/
def directionOf (c : Char) : Direction :=
  match directionRows.find? fun rows => (DomainRow.find? c.toNat rows.2).isSome with
  | some (direction, _) => direction
  | none => .leftToRight

namespace Direction

/-- Whether a character of this direction makes the rule apply to all labels. -/
def startsRightToLeft (direction : Direction) : Bool :=
  direction == rightToLeft || direction == arabicDigit

/-- The last direction of a label, marks apart. -/
def last? (directions : List Direction) : Option Direction :=
  (directions.filter (· != nonspacing)).getLast?

/--
Whether the characters of a label read in one direction.

A label is empty, or starts with a letter that gives the direction, ends with a
letter or a digit of it, and has none but neutral characters of the other; a label
from right to left uses digits of one kind.
-/
def agree (directions : List Direction) : Bool :=
  match directions with
  | [] => true
  | leftToRight :: _ =>
      directions.all (fun direction => !direction.startsRightToLeft) &&
        (last? directions == some leftToRight ||
          last? directions == some europeanDigit)
  | rightToLeft :: _ =>
      directions.all (· != leftToRight) &&
        last? directions != some neutral &&
        !(directions.contains arabicDigit && directions.contains europeanDigit)
  | _ => false

end Direction

/-- Whether every label of a domain name reads in one direction, if it has to. -/
def directionsAgree (labels : List (List Char)) : Bool :=
  let directions := labels.map (·.map directionOf)
  !directions.any (·.any Direction.startsRightToLeft) ||
    directions.all Direction.agree

/-- The letters that join to the letter after them. -/
def joinForwardRows : List DomainRow :=
  DomainRow.tableOfText joinForwardText

/-- The letters that join to the letter before them. -/
def joinBackwardRows : List DomainRow :=
  DomainRow.tableOfText joinBackwardText

/-- The characters that letters join across. -/
def joinAcrossRows : List (List DomainRow) :=
  [DomainRow.tableOfText nonspacingText, DomainRow.tableOfText joinAcrossText]

/-- Whether letters join across a character. -/
def isJoinedAcross (c : Char) : Bool :=
  joinAcrossRows.any fun rows => (DomainRow.find? c.toNat rows).isSome

/-- Whether the nearest letter of a text is one of a table. -/
def nearestIn
    (rows : List DomainRow)
    (text : List Char) :
    Bool :=
  match
    text.dropWhile fun c =>
      isJoinedAcross c && (DomainRow.find? c.toNat rows).isNone with
  | [] => false
  | c :: _ => (DomainRow.find? c.toNat rows).isSome

/-- The character that keeps letters from joining. -/
def isNonJoiner (c : Char) : Bool :=
  c.toNat == 0x200C

/-- The character that makes letters join. -/
def isJoiner (c : Char) : Bool :=
  c.toNat == 0x200D

/--
Whether each invisible joiner of a label stands where it may, with the characters
passed so far, the nearest first.

Behind a mark that silences a vowel both may stand, and between two letters that
join the one that keeps them apart.
-/
def joinersFit
    (isSilencer : Char → Bool)
    (passed : List Char) :
    List Char → Bool
  | [] => true
  | c :: rest =>
      (!(isNonJoiner c || isJoiner c) ||
          (passed.head?.map isSilencer).getD false ||
          isNonJoiner c && nearestIn joinForwardRows passed &&
            nearestIn joinBackwardRows rest) &&
        joinersFit isSilencer (c :: passed) rest

end CatalogSite.Url
