import CatalogSite.Definition

namespace CatalogSite

/-!
# Changing definitions in place

Definitions are built up step by step: a value is written under a key, other
definitions are laid over the held ones or moved into them, or all held texts are
escaped. No step fails.
-/

namespace Dictionary

variable {α : Type}

/-- Move the entries of another dictionary into this one: its keys win. -/
def merge (below above : Dictionary α) : Dictionary α :=
  above.entries.foldl (fun held (key, value) => held.insert key value) below

end Dictionary

/-- A step of changing definitions. -/
inductive DefinitionStep where
  | insert (key : String) (value : Definition)
  | overlay (above : Definitions)
  | merge (above : Definitions)
  | escape
  deriving DecidableEq

namespace DefinitionStep

/-- Carry out a step on the held definitions. -/
def perform (held : Definitions) : DefinitionStep → Definitions
  | .insert key value => held.insert key value
  | .overlay above => held.overlay above
  | .merge above => held.merge above
  | .escape => held.escaped

end DefinitionStep

/-- What a sequence of steps makes of definitions. -/
def Definitions.run
    (held : Definitions)
    (steps : List DefinitionStep) :
    Definitions :=
  steps.foldl DefinitionStep.perform held

end CatalogSite
