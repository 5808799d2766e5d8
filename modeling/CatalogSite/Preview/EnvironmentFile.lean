import CatalogSite.Config
import CatalogSite.Text.Blank
import CatalogSite.Text.Utf8

namespace CatalogSite.EnvironmentFile

/-!
# Environment files

An environment file assigns variables, one a line. A value may be quoted: between
double quotes a backslash escapes, between single ones nothing does, and quoted text
may go on over several lines. A dollar sign names a variable that was set before. A
variable that the environment already has keeps its value, and reading stops at the
first line that is malformed.
-/

/-- What the end of a line leaves open. -/
inductive LineState where
  | plain
  | blank
  | escape
  | weak
  | weakEscape
  | strong
  | strongEscape
  deriving Repr, DecidableEq

/-- The state that a character leads to outside quotes. -/
def LineState.opened (c : Char) : LineState :=
  if c = '\\' then .escape
  else if c = '"' then .weak
  else if c = '\'' then .strong
  else .plain

/-- The state that a character leads to. -/
def LineState.next
    (state : LineState)
    (c : Char) :
    LineState :=
  match state with
  | .plain => if Text.isBlank c && c != '\n' && c != '\r' then .blank else .opened c
  | .blank => .opened c
  | .escape => .plain
  | .weak => if c = '\\' then .weakEscape else if c = '"' then .plain else .weak
  | .weakEscape => .weak
  | .strong =>
      if c = '\\' then .strongEscape
      else if c = '\'' then .plain
      else .strong
  | .strongEscape => .strong

/-- A line up to a comment, if it has one, and the state at its end. -/
def uncommented (state : LineState) : List Char → List Char × Option LineState
  | [] => ([], some state)
  | c :: rest =>
      if state = .blank ∧ c = '#' then ([], none)
      else
        let (line, final) := uncommented (state.next c) rest
        (c :: line, final)

/-- A line without its end. -/
def withoutLineEnd (line : List Char) : List Char :=
  match line.reverse with
  | '\n' :: '\r' :: rest => rest.reverse
  | '\n' :: rest => rest.reverse
  | _ => line

/--
Join the lines that belong together.

A line that is no text, or that the file ends before completing, is malformed.
-/
def joinLines
    (pending : List Char)
    (state : LineState) :
    List (Option (List Char)) → List (Option (List Char))
  | [] => if state = .plain then [] else [none]
  | none :: _ => [none]
  | some line :: rest =>
      if (Text.trimStart (pending ++ line)).head? = some '#' then
        some [] :: joinLines [] .plain rest
      else
        match uncommented state line with
        | (kept, none) => some (pending ++ kept) :: joinLines [] .plain rest
        | (_, some .plain) =>
            some (withoutLineEnd (pending ++ line)) :: joinLines [] .plain rest
        | (_, some final) => joinLines (pending ++ line) final rest

/-- Split bytes behind every line feed. -/
def splitLines : List UInt8 → List (List UInt8)
  | [] => []
  | byte :: rest =>
      match byte == 10, splitLines rest with
      | true, lines => [byte] :: lines
      | false, [] => [[byte]]
      | false, line :: lines => (byte :: line) :: lines

/-- The lines of a file behind its byte order mark, as far as they are texts. -/
def physicalLines (bytes : List UInt8) : List (Option (List Char)) :=
  let bytes :=
    match bytes with
    | 0xEF :: 0xBB :: 0xBF :: rest => rest
    | other => other
  (splitLines bytes).map Text.decode?

/-- What has been read of a value. -/
inductive ValueState where
  | bare
  | bareEscape
  | weak
  | weakEscape
  | strong
  | variableName (quoted : Bool) (name : List Char)
  | bracedName (quoted : Bool) (name : List Char)
  | finished
  deriving Repr, DecidableEq

/--
Whether a character belongs to the name of a variable: letters outside ASCII do.
-/
def isNameChar (c : Char) : Bool :=
  c.isAlphanum || (0x80 ≤ c.toNat && !Text.isBlank c)

/-- The character that an escape stands for. -/
def escaped? (c : Char) : Option Char :=
  if c = 'n' then some '\n'
  else if c = '\\' || c = '\'' || c = '"' || c = '$' || c = ' ' then some c
  else none

/-- The state outside or inside double quotes. -/
def ValueState.within (quoted : Bool) : ValueState :=
  if quoted then .weak else .bare

/-- Read the rest of a value. -/
def readValue
    (valueOf : List Char → List Char) :
    ValueState → List Char → Option (List Char)
  | .bare, [] | .bareEscape, [] | .finished, [] => some []
  | .variableName false name, [] => some (valueOf name)
  | .variableName true _, [] | .weak, [] | .weakEscape, [] | .strong, []
  | .bracedName .., [] =>
      none
  | .finished, c :: rest =>
      if c = ' ' || c = '\t' then readValue valueOf .finished rest
      else if c = '#' then some []
      else none
  | .bareEscape, c :: rest => do
      let literal ← escaped? c
      let value ← readValue valueOf .bare rest
      some (literal :: value)
  | .weakEscape, c :: rest => do
      let literal ← escaped? c
      let value ← readValue valueOf .weak rest
      some (literal :: value)
  | .strong, c :: rest =>
      if c = '\'' then readValue valueOf .bare rest
      else (readValue valueOf .strong rest).map (c :: ·)
  | .variableName quoted name, c :: rest =>
      if isNameChar c then
        readValue valueOf (.variableName quoted (name ++ [c])) rest
      else if c = '\x7b' ∧ name = [] then
        readValue valueOf (.bracedName quoted []) rest
      else if c = '$' then
        (readValue valueOf (.variableName quoted []) rest).map (valueOf name ++ ·)
      else
        (readValue valueOf (.within quoted) rest).map (valueOf name ++ c :: ·)
  | .bracedName quoted name, c :: rest =>
      if isNameChar c then readValue valueOf (.bracedName quoted (name ++ [c])) rest
      else if c = '\x7d' then
        (readValue valueOf (.within quoted) rest).map (valueOf name ++ ·)
      else readValue valueOf (.bracedName quoted (name ++ [c])) rest
  | .weak, c :: rest =>
      if c = '$' then readValue valueOf (.variableName true []) rest
      else if c = '"' then readValue valueOf .bare rest
      else if c = '\\' then readValue valueOf .weakEscape rest
      else (readValue valueOf .weak rest).map (c :: ·)
  | .bare, c :: rest =>
      if c = '$' then readValue valueOf (.variableName false []) rest
      else if c = '\'' then readValue valueOf .strong rest
      else if c = '"' then readValue valueOf .weak rest
      else if c = '\\' then readValue valueOf .bareEscape rest
      else if c = ' ' || c = '\t' then readValue valueOf .finished rest
      else (readValue valueOf .bare rest).map (c :: ·)

/-- Read the name of a variable and the blanks behind it. -/
def readKey? (text : List Char) : Option (List Char × List Char) :=
  let isKeyChar (c : Char) := c.isAlphanum || c == '_' || c == '.'
  match text with
  | c :: _ =>
      if c.isAlpha || c = '_' then
        some (text.takeWhile isKeyChar, Text.trimStart (text.dropWhile isKeyChar))
      else
        none
  | [] => none

/-- Read the equals sign between a variable and its value. -/
def afterEquals? : List Char → Option (List Char)
  | '=' :: rest => some rest
  | _ => none

/--
Read the name of a variable, possibly behind the word `export`, and the equals sign.
-/
def readAssignment? (text : List Char) : Option (List Char × List Char) := do
  let (key, rest) ← readKey? text
  match afterEquals? rest with
  | some value => some (key, value)
  | none =>
      if key = "export".toList then do
        let (key, rest) ← readKey? rest
        (afterEquals? rest).map (key, ·)
      else
        none

/-- What lines have set: every variable read so far, and the environment. -/
structure Assignments where
  read : Environment
  environment : Environment

namespace Assignments

/-- The value that a name stands for in a later line. -/
def valueOf
    (assignments : Assignments)
    (name : List Char) :
    List Char :=
  let name := String.ofList name
  let value := (Config.lookUp? assignments.environment name).orElse fun _ =>
    Config.lookUp? assignments.read name
  (value.getD "").toList

/-- Set a variable, unless the environment already has it. -/
def set
    (assignments : Assignments)
    (name value : String) :
    Assignments where
  read := (name, value) :: assignments.read
  environment :=
    match Config.lookUp? assignments.environment name with
    | some _ => assignments.environment
    | none => assignments.environment ++ [(name, value)]

/-- Apply a line, unless it is malformed. -/
def applyLine?
    (assignments : Assignments)
    (line : List Char) :
    Option Assignments :=
  let line := Text.trim line
  if line.isEmpty || line.head? = some '#' then some assignments
  else do
    let (key, value) ← readAssignment? line
    let value := Text.trimStart value
    let value ←
      if value.head? = some '#' then some []
      else readValue assignments.valueOf .bare value
    some (assignments.set (String.ofList key) (String.ofList value))

/-- Apply lines up to the first malformed one. -/
def applyLines (assignments : Assignments) : List (Option (List Char)) → Assignments
  | [] => assignments
  | none :: _ => assignments
  | some line :: rest =>
      match assignments.applyLine? line with
      | some next => applyLines next rest
      | none => assignments

end Assignments

/-- The environment after applying a file. -/
def apply
    (environment : Environment)
    (bytes : List UInt8) :
    Environment :=
  let lines := joinLines [] .plain (physicalLines bytes)
  (Assignments.applyLines { read := [], environment } lines).environment

end CatalogSite.EnvironmentFile
