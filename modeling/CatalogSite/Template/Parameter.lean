import CatalogSite.Definition
import CatalogSite.Text.Blank
import CatalogSite.Text.Substring

namespace CatalogSite.Template

/-!
# Placeholder parameters

The text between a placeholder's braces lists slots, separated by commas: a
quoted text, an element in angle brackets, or the exact key of a definition. A
slot that holds none of these still occupies its position. The first slot has to
name a definition, since it provides the text that the others are put into.

The reader is a machine over the characters: `Reading.step` takes one character,
`Reading.finish` closes the slot that the end of the text leaves open.
-/

/-- The parameter that a slot provides. -/
inductive Parameter where
  | text (content : String)
  | element (content : String)
  | definition (key : String)
  | invalid
  deriving Repr, DecidableEq

namespace Parameter

/-- Whether a parameter names a definition. -/
def isDefinition : Parameter → Bool
  | .definition _ => true
  | _ => false

end Parameter

/-- What the first character of a slot announces. -/
inductive SlotKind where
  | text
  | element
  | definition
  deriving Repr, DecidableEq

/-- The kind of slot that a character opens. -/
def SlotKind.openedBy (c : Char) : SlotKind :=
  if c = '"' then .text
  else if c = '<' then .element
  else .definition

/-- Whether a left angle bracket is directly followed by a slash or a blank. -/
def hasClosingOrSpacedTag : List Char → Bool
  | '<' :: next :: rest =>
      next == '/' || Text.isBlank next || hasClosingOrSpacedTag (next :: rest)
  | _ :: rest => hasClosingOrSpacedTag rest
  | [] => false

/--
The text between a first and a last character, if the body has these two ends.
-/
def between?
    (first last : Char)
    (body : List Char) :
    Option (List Char) :=
  match body with
  | [] => none
  | c :: rest =>
      if c = first ∧ rest.getLast? = some last then some rest.dropLast else none

/-- The parameter that the body of a slot stands for. -/
def SlotKind.parameter
    (kind : SlotKind)
    (definitions : Definitions)
    (body : List Char) :
    Parameter :=
  match kind with
  | .text =>
      match between? '"' '"' body with
      | some content => .text (String.ofList content)
      | none => .invalid
  | .element =>
      match between? '<' '>' body with
      | some content =>
          if hasClosingOrSpacedTag body then .invalid
          else .element (String.ofList content)
      | none => .invalid
  | .definition =>
      let key := String.ofList body
      if definitions.contains key then .definition key else .invalid

/-- Where the reader stands inside the list of slots. -/
inductive SlotState where
  | seeking
  | reading (kind : SlotKind) (body : List Char)
  | closed (body : List Char)
  deriving Repr, DecidableEq

/-- The parameters read so far and the place reached. -/
structure Reading where
  found : List Parameter
  state : SlotState
  deriving Repr, DecidableEq

namespace Reading

/-- The reading before the first character. -/
def start : Reading where
  found := []
  state := .seeking

/--
Close a slot.

The very first slot has to be a definition; any other slot without a meaning
becomes an invalid parameter, so that later positions still line up.
-/
def close
    (reading : Reading)
    (definitions : Definitions)
    (kind : SlotKind)
    (body : List Char) :
    Option Reading :=
  let parameter := kind.parameter definitions body
  if reading.found.isEmpty && !parameter.isDefinition then
    none
  else
    some { found := reading.found ++ [parameter], state := .seeking }

/-- Record a position that holds nothing usable. -/
def skip (reading : Reading) : Reading :=
  { reading with found := reading.found ++ [.invalid] }

/-- Read one character. -/
def step
    (definitions : Definitions)
    (reading : Reading)
    (c : Char) :
    Option Reading :=
  match reading.state with
  | .seeking =>
      if Text.isBlank c then some reading
      else if c = ',' then some reading.skip
      else some { reading with state := .reading (.openedBy c) [c] }
  | .reading .text body =>
      if c = '"' then some { reading with state := .closed (body ++ [c]) }
      else some { reading with state := .reading .text (body ++ [c]) }
  | .reading kind body =>
      if c = ',' then reading.close definitions kind body
      else some { reading with state := .reading kind (body ++ [c]) }
  | .closed body =>
      if Text.isBlank c then some reading
      else if c = ',' then reading.close definitions .text body
      else some reading.skip

/-- Close the slot that the end of the text leaves open. -/
def finish
    (definitions : Definitions)
    (reading : Reading) :
    Option (List Parameter) :=
  match reading.state with
  | .seeking => some reading.found
  | .reading kind body => (reading.close definitions kind body).map Reading.found
  | .closed body => (reading.close definitions .text body).map Reading.found

/-- Read the remaining characters and close. -/
def run (definitions : Definitions) : Reading → List Char → Option (List Parameter)
  | reading, [] => reading.finish definitions
  | reading, c :: rest =>
      (reading.step definitions c).bind fun next =>
        next.run definitions rest

end Reading

/--
The parameters of a placeholder body.

There are none when the body or the map of definitions is empty, when the body
starts with a comma, or when its first parameter does not name a definition.
-/
def parameters?
    (body : List Char)
    (definitions : Definitions) :
    Option (List Parameter) :=
  if body.isEmpty || definitions.isEmpty ||
      Text.startsWith [','] (Text.trimStart body) then
    none
  else
    match Reading.start.run definitions body with
    | some (.definition key :: rest) => some (.definition key :: rest)
    | _ => none

end CatalogSite.Template
