import CatalogSite.Template.Store

namespace CatalogSite.Template

/-!
# Filling a store in place

A store is filled step by step: a namespace is loaded from a directory, or its
templates are given directly. A step works on the store that is held, so that
what a step has done before it fails would stay done. Every loading finds a disk
and a directory of its own.
-/

/-- A step of filling a store. -/
inductive StoreStep where
  | load
      (tree : FileTree)
      (directory namespaceName : String)
      (fragments : List String)
  | insert (namespaceName : String) (templates : NamespaceTemplates)
  deriving DecidableEq

namespace StoreStep

/-- The namespace whose templates a step replaces. -/
def namespaceName : StoreStep → String
  | .load _ _ namespaceName _ => namespaceName
  | .insert namespaceName _ => namespaceName

/-- Carry out a step on the held store. -/
def perform : StoreStep → EStateM LoadError Store Unit
  | .load tree directory namespaceName fragments => do
      let main ← MonadExcept.ofExcept
        (Store.readTemplate tree (Store.mainPath directory namespaceName))
      let mut loaded := Dictionary.empty
      for fragment in fragments do
        let text ← MonadExcept.ofExcept
          (Store.readTemplate tree
            (Store.fragmentPath directory namespaceName fragment))
        loaded := loaded.insert fragment text
      modify fun store => store.insert namespaceName { main, fragments := loaded }
  | .insert namespaceName templates =>
      modify fun store => store.insert namespaceName templates

end StoreStep

namespace Store

/-- What a step leaves of a store, whether it succeeds or fails. -/
def after
    (store : Store)
    (step : StoreStep) :
    Store :=
  match step.perform store with
  | .ok _ next => next
  | .error _ kept => kept

/-- What a sequence of steps leaves of a store. -/
def run
    (store : Store)
    (steps : List StoreStep) :
    Store :=
  steps.foldl after store

end Store

end CatalogSite.Template
