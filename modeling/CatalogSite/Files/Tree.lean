import CatalogSite.Files.Path
import CatalogSite.Text.Utf8

namespace CatalogSite

/-!
# File trees

Everything that is read from disk is read from a value: the files below the
working directory, each with its bytes. A directory exists exactly when a file
lies below it. A look-up follows a path name by name, as an operating system
without symbolic links does.
-/

/-- The content of a file: a text, or bytes that need not be one. -/
inductive FileContent where
  | text (content : String)
  | binary (bytes : List UInt8)
  deriving DecidableEq

namespace FileContent

/-- The bytes of a file. -/
def bytes : FileContent → List UInt8
  | .text content => Text.utf8 content.toList
  | .binary bytes => bytes

/-- The text of a file, if its bytes are well-formed. -/
def text? : FileContent → Option String
  | .text content => some content
  | .binary bytes => (Text.decode? bytes).map String.ofList

end FileContent

/-- What a path leads to. -/
inductive FileEntry where
  | file (content : FileContent)
  | directory
  | missing
  | belowFile
  deriving DecidableEq

/-- Why a file gives no text. -/
inductive ReadError where
  | missing
  | directory
  | belowFile
  | notText
  deriving Repr, DecidableEq

/-- The words of the system for a file that gives no text. -/
def ReadError.detail : ReadError → String
  | .missing => "No such file or directory (os error 2)"
  | .directory => "Is a directory (os error 21)"
  | .belowFile => "Not a directory (os error 20)"
  | .notText => "stream did not contain valid UTF-8"

/-- The files of a disk, by the names that lead to them. -/
structure FileTree where
  files : List (List String × FileContent)
  deriving DecidableEq

namespace FileTree

/-- The disk without files. -/
def empty : FileTree where
  files := []

/-- The place that a path starts from. -/
def origin (path : String) : List String :=
  if Path.isAbsolute path then ["/"] else []

/-- The names that a path follows; a slash at the end asks for a directory. -/
def steps (path : String) : List String :=
  let names := (Path.names path).filter (· ≠ "")
  if path.toList.getLast? = some '/' then names ++ ["."] else names

/-- The directory that contains a place. -/
def parent (place : List String) : List String :=
  match place.getLast? with
  | none => [".."]
  | some ".." => place ++ [".."]
  | some "/" => place
  | some _ => place.dropLast

/-- The file at a place. -/
def fileAt?
    (tree : FileTree)
    (place : List String) :
    Option FileContent :=
  (tree.files.find? fun file => file.1 = place).map Prod.snd

/-- Whether a file lies below a place. -/
def hasBelow
    (tree : FileTree)
    (place : List String) :
    Bool :=
  tree.files.any fun file => place.isPrefixOf file.1 && place.length < file.1.length

/-- Follow names from a directory. -/
def follow (tree : FileTree) : List String → List String → FileEntry
  | _, [] => .directory
  | place, "." :: rest => tree.follow place rest
  | place, ".." :: rest => tree.follow (parent place) rest
  | place, name :: rest =>
      let next := place ++ [name]
      match tree.fileAt? next with
      | some content => if rest.isEmpty then .file content else .belowFile
      | none => if tree.hasBelow next then tree.follow next rest else .missing

/-- What a path leads to. -/
def entry
    (tree : FileTree)
    (path : String) :
    FileEntry :=
  if path.isEmpty then .missing else tree.follow (origin path) (steps path)

/-- Whether a path leads to a file. -/
def isFile
    (tree : FileTree)
    (path : String) :
    Bool :=
  match tree.entry path with
  | .file _ => true
  | _ => false

/-- The content of the file that a path leads to. -/
def content?
    (tree : FileTree)
    (path : String) :
    Option FileContent :=
  match tree.entry path with
  | .file content => some content
  | _ => none

/-- Read a file as text. -/
def readText
    (tree : FileTree)
    (path : String) :
    Except ReadError String :=
  match tree.entry path with
  | .file content =>
      match content.text? with
      | some text => .ok text
      | none => .error .notText
  | .directory => .error .directory
  | .missing => .error .missing
  | .belowFile => .error .belowFile

/-- The text of the file that a path leads to, if it has one. -/
def text?
    (tree : FileTree)
    (path : String) :
    Option String :=
  (tree.readText path).toOption

/-- The place that a path names, without looking at the disk. -/
def place (path : String) : List String :=
  (steps path).foldl
    (fun place name =>
      if name = "." then place
      else if name = ".." then parent place
      else place ++ [name])
    (origin path)

/-- Delete the file at a path, if there is one. -/
def remove
    (tree : FileTree)
    (path : String) :
    FileTree where
  files := tree.files.filter fun file => file.1 ≠ place path

/-- Write a file, replacing the one at its path. -/
def write
    (tree : FileTree)
    (path : String)
    (content : FileContent) :
    FileTree where
  files := (tree.remove path).files ++ [(place path, content)]

end FileTree

end CatalogSite
