import CatalogSite.Template.Element
import CatalogSite.Template.Parameter

namespace CatalogSite.Template

/-!
# Expansion of a placeholder

The first parameter names the base text. With further parameters, the references
`$1`, `$2` … in the base text are replaced in two passes: first every plain
reference, then every reference with a braced text to be wrapped. Whatever has no
meaning is written as a fixed fallback.
-/

/-- The text written for anything that has no meaning. -/
def fallback : List Char :=
  "null".toList

/-- The number that a run of digits denotes, as an index into the parameters. -/
def Parameter.atIndex?
    (parameters : List Parameter)
    (digits : List Char) :
    Option Parameter :=
  parameters[digitsValue digits]?

/-- The text of a parameter at a plain reference. -/
def Parameter.plainText?
    (definitions : Definitions) :
    Parameter → Option (List Char)
  | .text content => some content.toList
  | .definition key => (definitions.text? key).map String.toList
  | .element content => openingTag? content.toList
  | .invalid => none

/-- The text of a parameter at a reference that wraps a text. -/
def Parameter.wrappedText?
    (definitions : Definitions)
    (inner : List Char) :
    Parameter → Option (List Char)
  | .text content => some content.toList
  | .definition key => (definitions.text? key).map String.toList
  | .element content => wrap? content.toList inner
  | .invalid => none

/-- The meaning of a plain reference. -/
def plainMeaning
    (definitions : Definitions)
    (parameters : List Parameter)
    (digits : List Char) :
    List Char :=
  ((Parameter.atIndex? parameters digits).bind
    (Parameter.plainText? definitions)).getD fallback

/-- The meaning of a reference that wraps a text. -/
def wrapMeaning
    (definitions : Definitions)
    (parameters : List Parameter)
    (digits inner : List Char) :
    List Char :=
  ((Parameter.atIndex? parameters digits).bind
    (Parameter.wrappedText? definitions inner)).getD fallback

/--
What a dollar sign and its digits become, given the character after them.

Before an opening brace the last digit stays behind: a plain reference is never
directly followed by one.
-/
def referenceText
    (meaning : List Char → List Char)
    (digits : List Char)
    (next : Option Char) :
    List Char :=
  if next = some '\x7b' then
    match digits.dropLast, digits.getLast? with
    | [], _ => '$' :: digits
    | shorter, some last => meaning shorter ++ [last]
    | shorter, none => '$' :: shorter
  else if digits.isEmpty then
    ['$']
  else
    meaning digits

/--
Replace every plain reference.

The second argument holds the digits read since a dollar sign, if one is open.
-/
def substitutePlain
    (meaning : List Char → List Char) :
    Option (List Char) → List Char → List Char
  | none, [] => []
  | some digits, [] => referenceText meaning digits none
  | none, c :: rest =>
      if c = '$' then substitutePlain meaning (some []) rest
      else c :: substitutePlain meaning none rest
  | some digits, c :: rest =>
      if c.isDigit then
        substitutePlain meaning (some (digits ++ [c])) rest
      else
        referenceText meaning digits (some c) ++
          (if c = '$' then substitutePlain meaning (some []) rest
           else c :: substitutePlain meaning none rest)

/--
The text before the first closing brace on the same line, and the text after it.
-/
def braced? : List Char → Option (List Char × List Char)
  | [] => none
  | c :: rest =>
      if c = '\x7d' then some ([], rest)
      else if c = '\n' then none
      else (braced? rest).map fun (inner, after) => (c :: inner, after)

/-- What follows a braced text is shorter than the text it was read from. -/
theorem length_of_braced?
    {text inner after : List Char}
    (found : braced? text = some (inner, after)) :
    after.length < text.length := by
  induction text generalizing inner with
  | nil => simp [braced?] at found
  | cons c rest inductionHypothesis =>
      rw [braced?] at found
      split at found
      · simp only [Option.some.injEq, Prod.mk.injEq] at found
        simp [← found.2]
      · split at found
        · simp at found
        · obtain ⟨⟨inner', after'⟩, inside, equal⟩ := Option.map_eq_some_iff.1 found
          simp only [Prod.mk.injEq] at equal
          have shorter := inductionHypothesis (equal.2 ▸ inside)
          simp only [List.length_cons]
          omega

/--
The digits, the braced text and the rest of a wrapping reference after its dollar
sign.
-/
def wrapping? (text : List Char) : Option (List Char × List Char × List Char) :=
  let digits := text.takeWhile Char.isDigit
  if digits.isEmpty then
    none
  else
    match text.dropWhile Char.isDigit with
    | '\x7b' :: rest =>
        (braced? rest).map fun (inner, after) => (digits, inner, after)
    | _ => none

/-- What follows a wrapping reference is shorter than the text it was read from. -/
theorem length_of_wrapping?
    {text digits inner after : List Char}
    (found : wrapping? text = some (digits, inner, after)) :
    after.length < text.length := by
  simp only [wrapping?] at found
  split at found
  · simp at found
  · split at found
    · rename_i rest divided
      obtain ⟨⟨inner', after'⟩, inside, equal⟩ := Option.map_eq_some_iff.1 found
      simp only [Prod.mk.injEq] at equal
      have shorter := length_of_braced? (equal.2.2 ▸ inside)
      have dropped : (text.dropWhile Char.isDigit).length ≤ text.length :=
        (List.dropWhile_suffix _).length_le
      rw [divided] at dropped
      simp only [List.length_cons] at dropped
      omega
    · simp at found

/-- Replace every reference that wraps a text. -/
def substituteWraps
    (meaning : List Char → List Char → List Char) :
    List Char → List Char
  | [] => []
  | c :: rest =>
      if c = '$' then
        match found : wrapping? rest with
        | some (digits, inner, after) =>
            have := length_of_wrapping? found
            meaning digits inner ++ substituteWraps meaning after
        | none => c :: substituteWraps meaning rest
      else
        c :: substituteWraps meaning rest
termination_by text => text.length

/-- Put the parameters into a base text. -/
def substitute
    (definitions : Definitions)
    (parameters : List Parameter)
    (base : List Char) :
    List Char :=
  substituteWraps (wrapMeaning definitions parameters)
    (substitutePlain (plainMeaning definitions parameters) none base)

/-- The text that a placeholder body stands for. -/
def expandChars
    (body : List Char)
    (definitions : Definitions) :
    List Char :=
  match parameters? body definitions with
  | some [.definition key] =>
      ((definitions.text? key).map String.toList).getD fallback
  | some (.definition key :: others) =>
      match definitions.text? key with
      | some base => substitute definitions (.definition key :: others) base.toList
      | none => fallback
  | _ => fallback

/-- The text that a placeholder body stands for. -/
def expand
    (body : String)
    (definitions : Definitions) :
    String :=
  String.ofList (expandChars body.toList definitions)

end CatalogSite.Template
