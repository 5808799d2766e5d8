import CatalogSite.Text.CaseData

namespace CatalogSite.Text

/-!
# Lowercase text

Lowercase is taken character by character with two exceptions: a dotted capital I
becomes two characters, and a capital sigma becomes a final sigma where a word
ends, that is behind a letter with case and before none.
-/

/-- Whether a code point lies in one of some increasing ranges. -/
def inRanges (n : Nat) : List (Nat × Nat) → Bool
  | [] => false
  | (first, last) :: rest =>
      if n < first then false else if n ≤ last then true else inRanges n rest

/-- The lowercase code point of a code point, by increasing runs. -/
def lowerBy (n : Nat) : List CaseRun → Nat
  | [] => n
  | run :: rest =>
      if n < run.first then n
      else if n ≤ run.last then
        if (n - run.first) % run.step = 0 then ((n : Int) + run.shift).toNat
        else lowerBy n rest
      else lowerBy n rest

/-- Whether a character has case. -/
def isCased (c : Char) : Bool :=
  inRanges c.toNat casedRanges

/--
Whether a character is passed over when the case around a letter is asked for.
-/
def isCaseIgnorable (c : Char) : Bool :=
  inRanges c.toNat caseIgnorableRanges

/-- The lowercase form of a character on its own. -/
def lowerChar (c : Char) : List Char :=
  if c.toNat = 0x130 then ['i', Char.ofNat 0x307]
  else [Char.ofNat (lowerBy c.toNat lowercaseRuns)]

/-- Whether the first character that counts has case. -/
def startsCased (text : List Char) : Bool :=
  match text.dropWhile isCaseIgnorable with
  | [] => false
  | c :: _ => isCased c

/--
The lowercase form of a character between the text before it, reversed, and after
it.
-/
def lowerBetween
    (before : List Char)
    (c : Char)
    (after : List Char) :
    List Char :=
  if c.toNat = 0x3A3 then
    if startsCased before && !startsCased after then [Char.ofNat 0x3C2]
    else [Char.ofNat 0x3C3]
  else
    lowerChar c

/-- The lowercase form of a text that follows a reversed text. -/
def lowercaseAfter (before : List Char) : List Char → List Char
  | [] => []
  | c :: rest => lowerBetween before c rest ++ lowercaseAfter (c :: before) rest

/-- The lowercase form of a list of characters. -/
def lowercaseChars (text : List Char) : List Char :=
  lowercaseAfter [] text

/-- The lowercase form of a text. -/
def lowercase (text : String) : String :=
  String.ofList (lowercaseChars text.toList)

/-- The lowercase form of a text in which only ASCII letters have case. -/
def asciiLowercase (text : String) : String :=
  String.ofList (text.toList.map Char.toLower)

/-- Whether two texts are equal up to the case of ASCII letters. -/
def equalsIgnoringAsciiCase (first second : String) : Bool :=
  first.toList.map Char.toLower == second.toList.map Char.toLower

end CatalogSite.Text
