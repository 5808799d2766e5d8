import CatalogSite.Text.Blank
import CatalogSite.Text.Substring
import CatalogSite.Text.Utf8
import CatalogSite.Url.Address
import CatalogSite.Url.Direction
import CatalogSite.Url.DomainData
import CatalogSite.Url.DomainRow
import CatalogSite.Url.Percent
import CatalogSite.Url.Punycode

namespace CatalogSite.Url

/-!
# Domain names

A domain name is brought to its ASCII form: characters are mapped to lower case
and to their plain forms, characters are composed with their marks, and a label
outside ASCII is written in Punycode. A label that already is in Punycode has to
stand for a label in mapped and composed form.
-/

/-- The characters that a domain name replaces by others. -/
def mappedRows : List DomainRow :=
  DomainRow.tableOfText mappedText

/-- The characters that a domain name leaves out. -/
def ignoredRows : List DomainRow :=
  DomainRow.tableOfText ignoredText

/-- The characters that no domain name may hold. -/
def disallowedRows : List DomainRow :=
  DomainRow.tableOfText disallowedText

/-- The characters that modify the one before them. -/
def markRows : List DomainRow :=
  DomainRow.tableOfText markText

/-- The characters that consist of two others. -/
def decompositionRows : List DomainRow :=
  DomainRow.tableOfText decompositionText

/-- The characters that are always written as two others. -/
def decomposedRows : List DomainRow :=
  DomainRow.tableOfText decomposedText

/-- The classes by which marks on one character are ordered. -/
def combiningClassRows : List DomainRow :=
  DomainRow.tableOfText combiningClassText

/--
What a character becomes in a domain name, or nothing if it may not stand there.
-/
def mapDomainChar? (c : Char) : Option (List Char) :=
  let point := c.toNat
  if point < 0x80 then
    some [c.toLower]
  else if (DomainRow.find? point disallowedRows).isSome then
    none
  else if (DomainRow.find? point ignoredRows).isSome then
    some []
  else
    match DomainRow.find? point mappedRows with
    | some row => some ((row.targetOf point).map Char.ofNat)
    | none => some [c]

/-- Map all characters of a domain name. -/
def mapDomain? (domain : List Char) : Option (List Char) :=
  (domain.mapM mapDomainChar?).map List.flatten

/-- The class of a mark; zero for a character that starts a new cluster. -/
def combiningClass (point : Nat) : Nat :=
  match DomainRow.find? point combiningClassRows with
  | some row => row.target.headD 0
  | none => 0

/-- The parts of a Korean syllable. -/
def syllableParts? (point : Nat) : Option (List Nat) :=
  if 0xAC00 ≤ point ∧ point ≤ 0xD7A3 then
    let index := point - 0xAC00
    let parts := [0x1100 + index / 588, 0x1161 + index % 588 / 28]
    some (if index % 28 = 0 then parts else parts ++ [0x11A7 + index % 28])
  else
    none

/-- The full decomposition of a code point, with a bound on its depth. -/
def decompose : Nat → Nat → List Nat
  | 0, point => [point]
  | depth + 1, point =>
      match syllableParts? point with
      | some parts => parts
      | none =>
          match DomainRow.find? point decompositionRows with
          | some row => row.target.flatMap (decompose depth)
          | none => [point]

/-- Order every run of marks by class. -/
def orderMarks : List Nat → List Nat → List Nat
  | run, [] => sorted run
  | run, point :: rest =>
      if combiningClass point = 0 then sorted run ++ point :: orderMarks [] rest
      else orderMarks (run ++ [point]) rest
where
  /-- The marks of a run by increasing class. -/
  sorted (run : List Nat) : List Nat :=
    run.mergeSort fun first second => combiningClass first ≤ combiningClass second

/-- The composition of two parts of a Korean syllable. -/
def composeSyllable? (first second : Nat) : Option Nat :=
  if 0x1100 ≤ first ∧ first ≤ 0x1112 ∧ 0x1161 ≤ second ∧ second ≤ 0x1175 then
    some (0xAC00 + ((first - 0x1100) * 21 + (second - 0x1161)) * 28)
  else if 0xAC00 ≤ first ∧ first ≤ 0xD7A3 ∧ (first - 0xAC00) % 28 = 0 ∧
      0x11A8 ≤ second ∧ second ≤ 0x11C2 then
    some (first + (second - 0x11A7))
  else
    none

/-- The composition of two characters. -/
def compose? (first second : Nat) : Option Nat :=
  match composeSyllable? first second with
  | some point => some point
  | none =>
      (decompositionRows.find? fun row =>
        row.target = [first, second] ∧
          (DomainRow.find? row.first decomposedRows).isNone).map DomainRow.first

/--
Compose characters behind a starting one.

The marks passed over so far and the class of the last of them decide whether a
character still attaches to the starting one.
-/
def composeFrom
    (starter : Nat)
    (passed : List Nat)
    (lastClass : Option Nat) :
    List Nat → List Nat
  | [] => starter :: passed
  | point :: rest =>
      let pointClass := combiningClass point
      let blocked :=
        match lastClass with
        | none => false
        | some known => known = 0 || pointClass ≤ known
      match if blocked then none else compose? starter point with
      | some composed => composeFrom composed passed lastClass rest
      | none =>
          if pointClass = 0 then
            starter :: (passed ++ composeFrom point [] none rest)
          else composeFrom starter (passed ++ [point]) (some pointClass) rest

/-- The composed form of a text. -/
def composed (text : List Char) : List Char :=
  let points := orderMarks [] (text.flatMap fun c => decompose 4 c.toNat)
  let (leading, rest) := points.span fun point => combiningClass point ≠ 0
  let points :=
    match rest with
    | [] => leading
    | starter :: others => leading ++ composeFrom starter [] none others
  points.map Char.ofNat

/-- Whether all characters are in ASCII. -/
def isAscii (text : List Char) : Bool :=
  text.all (·.toNat < 0x80)

/-- The ASCII characters that no host may hold. -/
def isForbiddenInDomain (c : Char) : Bool :=
  c.toNat ≤ 0x20 || c.toNat == 0x7F || c == '%' || c == '#' || c == '/' ||
    c == ':' || c == '<' || c == '>' || c == '?' || c == '@' || c == '[' ||
    c == '\\' || c == ']' || c == '^' || c == '|'

/-- Whether a label outside ASCII is in the form that a domain name has. -/
def isPlainLabel (label : List Char) : Bool :=
  (match label with
    | [] => false
    | first :: _ => (DomainRow.find? first.toNat markRows).isNone) &&
    label.all
      (fun c =>
        mapDomainChar? c == some [c] && !isForbiddenInDomain c && c != '.') &&
    composed label == label &&
    joinersFit (fun c => combiningClass c.toNat == 9) [] label

/-- The beginning of a label in Punycode. -/
def punycodeMark : List Char :=
  "xn--".toList

/-- The label that a mapped and composed label stands for. -/
def plainLabel? (label : List Char) : Option (List Char) :=
  match Text.dropPrefix? punycodeMark label with
  | some encoded => do
      let decoded ← if isAscii encoded then Punycode.decode? encoded else none
      if !isAscii decoded && isPlainLabel decoded then some decoded else none
  | none => if isAscii label || isPlainLabel label then some label else none

/-- The ASCII form of a label. -/
def labelToAscii (label : List Char) : List Char :=
  if isAscii label then label else punycodeMark ++ Punycode.encode label

/-- The mapped and composed form of a domain name. -/
def normalizeDomain? (domain : List Char) : Option (List Char) :=
  if isAscii domain then some (domain.map Char.toLower)
  else (mapDomain? domain).map composed

/-- The ASCII form of a domain name. -/
def domainToAscii? (domain : List Char) : Option (List Char) := do
  let normal ← normalizeDomain? domain
  let labels ← (normal.splitOnP (· == '.')).mapM plainLabel?
  let ascii := ['.'].intercalate (labels.map labelToAscii)
  if ascii.any isForbiddenInDomain || !directionsAgree labels then none
  else some ascii

end CatalogSite.Url
