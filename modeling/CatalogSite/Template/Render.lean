import CatalogSite.Template.Expansion

namespace CatalogSite.Template

/-!
# Rendering a template

A template is a sequence of literal characters and placeholders. A placeholder is
a body in braces; when it stands first on a line, behind tabs only, the line break
and the tabs belong to it. They indent every line of its text, and they vanish
with it when the text is empty.
-/

/-- A placeholder with the line start that belongs to it. -/
structure Placeholder where
  newline : Bool
  tabs : List Char
  body : List Char
  deriving Repr, DecidableEq

/-- A piece of a template. -/
inductive Span where
  | literal (c : Char)
  | placeholder (content : Placeholder)
  deriving Repr, DecidableEq

/-- The body in braces that a text starts with, and the text after it. -/
def bracedBody? : List Char → Option (List Char × List Char)
  | '\x7b' :: rest =>
      match Text.splitFirst '\x7d' rest with
      | (body, some after) => some (body, after)
      | (_, none) => none
  | _ => none

/-- The placeholder behind the tabs that a text starts with. -/
def tabbed?
    (newline : Bool)
    (text : List Char) :
    Option (Placeholder × List Char) :=
  (bracedBody? (text.dropWhile (· == '\t'))).map fun (body, after) =>
    ({ newline, tabs := text.takeWhile (· == '\t'), body }, after)

/--
The placeholder that starts at the front of a text.

Tabs belong to it at the start of the template or after a line break.
-/
def placeholder?
    (atStart : Bool)
    (text : List Char) :
    Option (Placeholder × List Char) :=
  let bare :=
    (bracedBody? text).map fun (body, after) =>
      ({ newline := false, tabs := [], body : Placeholder }, after)
  let afterBreak :=
    match text with
    | '\n' :: rest => tabbed? true rest
    | _ => none
  let indented := if atStart then tabbed? false text else none
  indented <|> afterBreak <|> bare

/-- What follows the first separator is shorter than the text. -/
theorem length_of_splitFirst
    {separator : Char}
    {text before after : List Char}
    (found : Text.splitFirst separator text = (before, some after)) :
    after.length < text.length := by
  induction text generalizing before with
  | nil => simp [Text.splitFirst] at found
  | cons c rest inductionHypothesis =>
      rw [Text.splitFirst] at found
      split at found
      · simp only [Prod.mk.injEq, Option.some.injEq] at found
        simp [← found.2]
      · simp only [Prod.mk.injEq] at found
        have shorter := inductionHypothesis (Prod.ext rfl found.2)
        simp only [List.length_cons]
        omega

/-- What follows a braced body is shorter than the text. -/
theorem length_of_bracedBody?
    {text body after : List Char}
    (found : bracedBody? text = some (body, after)) :
    after.length < text.length := by
  unfold bracedBody? at found
  split at found
  · rename_i rest
    split at found
    · rename_i before tail divided
      simp only [Option.some.injEq, Prod.mk.injEq] at found
      have shorter := length_of_splitFirst divided
      simp only [← found.2, List.length_cons]
      omega
    · simp at found
  · simp at found

/-- What follows a placeholder behind tabs is shorter than the text. -/
theorem length_of_tabbed?
    {newline : Bool}
    {text after : List Char}
    {content : Placeholder}
    (found : tabbed? newline text = some (content, after)) :
    after.length < text.length := by
  obtain ⟨⟨body, tail⟩, inside, equal⟩ := Option.map_eq_some_iff.1 found
  simp only [Prod.mk.injEq] at equal
  have shorter := length_of_bracedBody? (equal.2 ▸ inside)
  have dropped : (text.dropWhile (· == '\t')).length ≤ text.length :=
    (List.dropWhile_suffix _).length_le
  omega

/-- What follows a placeholder is shorter than the text. -/
theorem length_of_placeholder?
    {atStart : Bool}
    {text after : List Char}
    {content : Placeholder}
    (found : placeholder? atStart text = some (content, after)) :
    after.length < text.length := by
  simp only [placeholder?, Option.orElse_eq_orElse, Option.orElse_eq_or,
    Option.or_eq_some_iff] at found
  rcases found with found | ⟨-, found | ⟨-, found⟩⟩
  · cases atStart with
    | false => simp at found
    | true => exact length_of_tabbed? (by simpa using found)
  · split at found
    · have shorter := length_of_tabbed? found
      simp only [List.length_cons]
      omega
    · simp at found
  · obtain ⟨⟨body, tail⟩, inside, equal⟩ := Option.map_eq_some_iff.1 found
    simp only [Prod.mk.injEq] at equal
    exact length_of_bracedBody? (equal.2 ▸ inside)

/-- The pieces of a text, the flag telling whether it starts the template. -/
def spansFrom
    (atStart : Bool)
    (text : List Char) :
    List Span :=
  match found : placeholder? atStart text with
  | some (content, after) =>
      have := length_of_placeholder? found
      .placeholder content :: spansFrom false after
  | none =>
      match text with
      | [] => []
      | c :: rest => .literal c :: spansFrom false rest
termination_by text.length

/-- The pieces of a template. -/
def spans (template : List Char) : List Span :=
  spansFrom true template

/--
Indent a value like its placeholder; an empty value takes the line start with it.
-/
def Placeholder.format
    (content : Placeholder)
    (value : List Char) :
    List Char :=
  if value.isEmpty then
    []
  else
    (if content.newline then ['\n'] else []) ++ content.tabs ++
      Text.replaceChar '\n' ('\n' :: content.tabs) value

/-- The text of one piece. -/
def Span.render (definitions : Definitions) : Span → List Char
  | .literal c => [c]
  | .placeholder content => content.format (expandChars content.body definitions)

/-- Fill every placeholder of a template. -/
def renderChars
    (template : List Char)
    (definitions : Definitions) :
    List Char :=
  (spans template).flatMap (Span.render definitions)

/-- Fill every placeholder of a template. -/
def render
    (template : String)
    (definitions : Definitions) :
    String :=
  String.ofList (renderChars template.toList definitions)

end CatalogSite.Template
