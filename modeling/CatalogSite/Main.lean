import CatalogSite.Preview.Files

namespace CatalogSite.Preview

/-!
# The preview command

The command shows the page for a target, `/` unless its first argument says
otherwise, in the language that its second argument names. The body goes to the
output and the status line to the error output.
-/

/-- The variables of the environment that a preview looks at. -/
def variableNames : List String :=
  ["HTTP_PORT", "HOST_NAME", "DEFAULT_LANG"]

/-- Read variables of the environment. -/
def readEnvironment (names : List String) : IO Environment :=
  names.filterMapM fun name => do
    return (← IO.getEnv name).map (name, ·)

/-- Read a file into a tree, unless it cannot be read. -/
def readFileInto
    (tree : FileTree)
    (path : String) :
    IO FileTree := do
  match ← (IO.FS.readBinFile path).toBaseIO with
  | .ok bytes => return tree.write path (.binary bytes.toList)
  | .error _ => return tree

/-- Read files into a tree, round after round. -/
def readFiles
    (environment : Environment)
    (arguments : List String) :
    Nat → FileTree → IO FileTree
  | 0, tree => return tree
  | rounds + 1, tree => do
      let missing :=
        (filesToRead tree environment arguments).filter (!tree.isFile ·)
      readFiles environment arguments rounds (← missing.foldlM readFileInto tree)

/-- Show a preview; the exit code tells whether there is one. -/
def command (arguments : List String) : IO UInt32 := do
  let environment ← readEnvironment variableNames
  let tree ← readFiles environment arguments readingRounds .empty
  -- A catalog that is refused is reported by its path alone.
  let _ : RefusalWords := ⟨fun _ => ""⟩
  match run tree environment arguments .epoch with
  | .ok shown =>
      IO.eprintln shown.statusLine
      IO.print shown.body
      return 0
  | .error failure =>
      IO.eprintln failure.report
      return 1

end CatalogSite.Preview

/-- The preview command with the arguments of the command line. -/
def main (arguments : List String) : IO UInt32 :=
  CatalogSite.Preview.command arguments
