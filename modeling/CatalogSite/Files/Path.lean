import CatalogSite.Text.Substring

namespace CatalogSite.Path

/-!
# Path texts

Paths are texts with `/` between their names. Joining is textual: an absolute
path replaces what it is joined to. The components of a path leave out empty
names and every `.` behind the first name.
-/

/-- A component of a path. -/
inductive Component where
  | root
  | current
  | parent
  | normal (name : String)
  deriving Repr, DecidableEq

/-- Whether a path starts at the root. -/
def isAbsolute (path : String) : Bool :=
  Text.startsWith ['/'] path.toList

/-- Append a path to a directory path. -/
def join (directory path : String) : String :=
  if isAbsolute path || directory.isEmpty then path
  else if directory.toList.getLast? = some '/' then directory ++ path
  else directory ++ "/" ++ path

/-- The names between the slashes of a path. -/
def names (path : String) : List String :=
  (path.toList.splitOnP (· == '/')).map String.ofList

/-- The component that a name stands for, if it counts. -/
def component?
    (isFirst : Bool)
    (name : String) :
    Option Component :=
  if name = "" then none
  else if name = "." then (if isFirst then some .current else none)
  else if name = ".." then some .parent
  else some (.normal name)

/-- The components of a path. -/
def components (path : String) : List Component :=
  match names path with
  | [] => []
  | first :: others =>
      let leading :=
        if isAbsolute path then [Component.root]
        else (component? true first).toList
      leading ++ others.filterMap (component? false)

/-- Whether a component is an ordinary name. -/
def Component.isNormal : Component → Bool
  | .normal _ => true
  | _ => false

/-- The last component of a path, if it is an ordinary name. -/
def fileName? (path : String) : Option String :=
  match (components path).getLast? with
  | some (.normal name) => some name
  | _ => none

/-- The part of the file name behind its last dot, unless that dot comes first. -/
def extension? (path : String) : Option String := do
  let name ← fileName? path
  let reversed := name.toList.reverse
  match Text.splitFirst '.' reversed with
  | (_, none) => none
  | (_, some []) => none
  | (ending, some _) => some (String.ofList ending.reverse)

end CatalogSite.Path
