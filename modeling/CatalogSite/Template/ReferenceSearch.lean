import CatalogSite.Template.Expansion
import CatalogSite.Text.Utf8

namespace CatalogSite

/-!
# Plain references by their bytes

The plain references of a base text can be searched first and replaced
afterwards. The search knows nothing of braces: it finds every dollar sign with
all the digits behind it and tells its bytes. The replacement looks at what
follows, gives one digit back to an opening brace, and copies the slices of the
text in between. It has no result where such a slice does not exist.
-/

namespace Text

/--
The part between two bytes of a text, if they are in order and neither cuts a
character.
-/
def slice?
    (first last : Nat)
    (text : List Char) :
    Option (List Char) :=
  if first ≤ last then
    (dropBytes? first text).bind (takeBytes? (last - first))
  else
    none

end Text

namespace Template

/-- The bytes at which a dollar sign with digits begins and ends. -/
structure Found where
  start : Nat
  stop : Nat
  deriving Repr, DecidableEq

/-- Search a text that begins at a byte for dollar signs with digits. -/
def searchFrom (position : Nat) : List Char → List Found
  | [] => []
  | c :: rest =>
      let digits := rest.takeWhile Char.isDigit
      if c = '$' ∧ digits ≠ [] then
        let stop := position + (Text.utf8 (c :: digits)).length
        { start := position, stop } :: searchFrom stop (rest.dropWhile Char.isDigit)
      else
        searchFrom (position + c.utf8Size) rest
termination_by text => text.length
decreasing_by
  · have := (List.dropWhile_suffix (l := rest) Char.isDigit).length_le
    simp only [List.length_cons]
    omega
  · simp

/--
Where the reference of a match ends, given the text behind the match.

Before an opening brace the last digit is given back, and of a single digit nothing
is left.
-/
def Found.stop?
    (found : Found)
    (behind : List Char) :
    Option Nat :=
  if behind.head? = some '\x7b' then
    if found.stop - found.start ≤ 2 then none else some (found.stop - 1)
  else
    some found.stop

/-- What has been written so far, and the byte up to which the text is done. -/
structure Pass where
  written : List Char
  done : Nat
  deriving Repr, DecidableEq

namespace Pass

/-- Replace the reference of a match, after what stands before it. -/
def step
    (meaning : List Char → List Char)
    (text : List Char)
    (pass : Pass)
    (found : Found) :
    Option Pass := do
  let behind ← Text.dropBytes? found.stop text
  match found.stop? behind with
  | none => some pass
  | some stop =>
      let between ← Text.slice? pass.done found.start text
      let digits ← Text.slice? (found.start + 1) stop text
      some { written := pass.written ++ (between ++ meaning digits), done := stop }

/-- Copy what stands behind the last reference. -/
def finish
    (text : List Char)
    (pass : Pass) :
    Option (List Char) :=
  (Text.dropBytes? pass.done text).map (pass.written ++ ·)

end Pass

/-- Replace every plain reference by slices of the text, if all of them exist. -/
def substituteSlices?
    (meaning : List Char → List Char)
    (text : List Char) :
    Option (List Char) :=
  ((searchFrom 0 text).foldlM (Pass.step meaning text)
      { written := [], done := 0 }).bind
    (Pass.finish text)

end Template

end CatalogSite
