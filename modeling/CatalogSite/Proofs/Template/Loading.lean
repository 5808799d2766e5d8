import CatalogSite.Proofs.Site.Assembled
import CatalogSite.Site.Load

namespace CatalogSite.Template.Store

/-!
# What a loaded store holds

Loading a namespace reads all of its files and puts them in place of whatever the
store held for it. After a sequence of loadings the store therefore has, for each
namespace, the templates that the last loading of it asked for, and nothing of the
earlier ones. Every file that any of the loadings asked for has been read.
-/

variable {tree : FileTree} {directory : String}

theorem main?_insert
    (store : Store)
    (added wanted : String)
    (templates : NamespaceTemplates) :
    (store.insert added templates).main? wanted =
      if added = wanted then some templates.main
      else store.main? wanted := by
  rw [main?, insert, Dictionary.get?_insert]
  split <;> rfl

theorem fragment?_insert
    (store : Store)
    (added wanted fragment : String)
    (templates : NamespaceTemplates) :
    (store.insert added templates).fragment? wanted fragment =
      if added = wanted then templates.fragments.get? fragment
      else store.fragment? wanted fragment := by
  rw [fragment?, insert, Dictionary.get?_insert]
  split <;> rfl

theorem text?_of_readTemplate
    {path text : String}
    (reads : readTemplate tree path = .ok text) :
    tree.text? path = some text := by
  unfold readTemplate at reads
  split at reads
  · rename_i found
    cases reads
    exact found
  · cases reads

/-- Every fragment of a namespace that is named can be read. -/
def Readable
    (tree : FileTree)
    (directory namespaceName : String)
    (fragments : List String) : Prop :=
  ∀ fragment ∈ fragments,
    (tree.text? (fragmentPath directory namespaceName fragment)).isSome

/-- Reading fragments adds the ones that are named, as their files have them. -/
theorem get?_of_readFragments
    {namespaceName : String}
    {fragments : List String}
    {loaded final : Dictionary String}
    (reads :
      readFragments tree directory namespaceName loaded fragments =
        .ok final) :
    Readable tree directory namespaceName fragments ∧
      ∀ wanted,
        final.get? wanted =
          if wanted ∈ fragments then
            tree.text? (fragmentPath directory namespaceName wanted)
          else loaded.get? wanted := by
  induction fragments generalizing loaded with
  | nil =>
      cases reads
      exact ⟨fun _ member => (nomatch member), fun _ => rfl⟩
  | cons fragment rest inductionHypothesis =>
      rw [readFragments] at reads
      obtain ⟨text, readsText, readsRest⟩ := exists_of_bind_eq_ok reads
      have isText := text?_of_readTemplate readsText
      obtain ⟨readable, restLoaded⟩ := inductionHypothesis readsRest
      constructor
      · intro other member
        rcases List.mem_cons.mp member with isFirst | inRest
        · rw [isFirst, isText]
          rfl
        · exact readable other inRest
      · intro wanted
        rw [restLoaded, Dictionary.get?_insert]
        by_cases inRest : wanted ∈ rest
        · simp [inRest]
        · by_cases isFirst : fragment = wanted
          · subst isFirst
            simp [inRest, isText]
          · simp [inRest, isFirst, Ne.symm isFirst]

/-- What a successful loading of a namespace has read, and what it has written. -/
theorem exists_templates_of_load
    {store next : Store}
    {namespaceName : String}
    {fragments : List String}
    (loads :
      store.load tree directory namespaceName fragments = .ok next) :
    Readable tree directory namespaceName fragments ∧
      ∃ templates : NamespaceTemplates,
        next = store.insert namespaceName templates ∧
          tree.text? (mainPath directory namespaceName) =
            some templates.main ∧
          ∀ wanted,
            templates.fragments.get? wanted =
              if wanted ∈ fragments then
                tree.text? (fragmentPath directory namespaceName wanted)
              else none := by
  unfold load at loads
  obtain ⟨main, readsMain, rest⟩ := exists_of_bind_eq_ok loads
  obtain ⟨loaded, readsFragments, written⟩ := exists_of_bind_eq_ok rest
  obtain ⟨readable, isLoaded⟩ := get?_of_readFragments readsFragments
  cases written
  exact
    ⟨readable, { main, fragments := loaded }, rfl,
      text?_of_readTemplate readsMain, isLoaded⟩

/-- The fragments that the last loading of a namespace asked for. -/
def lastRequest?
    (requests : List (String × List String))
    (namespaceName : String) :
    Option (List String) :=
  (requests.reverse.find? fun request => request.1 = namespaceName).map
    Prod.snd

theorem lastRequest?_concat
    (requests : List (String × List String))
    (added wanted : String)
    (fragments : List String) :
    lastRequest? (requests ++ [(added, fragments)]) wanted =
      if added = wanted then some fragments
      else lastRequest? requests wanted := by
  by_cases same : added = wanted <;> simp [lastRequest?, same]

/-- A store holds what the last loading of each namespace asked for, and no more. -/
structure HoldsLast
    (tree : FileTree)
    (directory : String)
    (requests : List (String × List String))
    (store : Store) : Prop where
  main?_eq :
    ∀ namespaceName,
      store.main? namespaceName =
        if (lastRequest? requests namespaceName).isSome then
          tree.text? (mainPath directory namespaceName)
        else none
  fragment?_eq :
    ∀ namespaceName fragment,
      store.fragment? namespaceName fragment =
        if fragment ∈ (lastRequest? requests namespaceName).getD [] then
          tree.text? (fragmentPath directory namespaceName fragment)
        else none

namespace HoldsLast

theorem empty :
    HoldsLast tree directory [] Store.empty where
  main?_eq _ := rfl
  fragment?_eq _ _ := rfl

/-- One more loading decides about its own namespace and leaves the others alone. -/
theorem load
    {store next : Store}
    {requests : List (String × List String)}
    {namespaceName : String}
    {fragments : List String}
    (holds : HoldsLast tree directory requests store)
    (loads :
      store.load tree directory namespaceName fragments = .ok next) :
    HoldsLast tree directory (requests ++ [(namespaceName, fragments)])
      next := by
  obtain ⟨-, templates, written, isMain, areFragments⟩ :=
    exists_templates_of_load loads
  subst written
  constructor
  · intro wanted
    rw [main?_insert, lastRequest?_concat, holds.main?_eq]
    by_cases same : namespaceName = wanted
    · subst same
      simp [isMain]
    · simp [same]
  · intro wanted fragment
    rw [fragment?_insert, lastRequest?_concat, holds.fragment?_eq]
    by_cases same : namespaceName = wanted
    · subst same
      simp [areFragments]
    · simp [same]

/-- A sequence of loadings leaves what the last loading of each namespace asked for. -/
theorem loadAll
    {store final : Store}
    {done requests : List (String × List String)}
    (holds : HoldsLast tree directory done store)
    (loads : Store.loadAll tree directory store requests = .ok final) :
    HoldsLast tree directory (done ++ requests) final := by
  -- What has been loaded so far is part of the invariant, so the requests move over to it.
  induction requests generalizing store done with
  | nil =>
      cases loads
      simpa using holds
  | cons request rest inductionHypothesis =>
      obtain ⟨next, loadsFirst, loadsRest⟩ := exists_of_bind_eq_ok loads
      simpa using inductionHypothesis (holds.load loadsFirst) loadsRest

end HoldsLast

/-- Every file that a sequence of loadings asks for can be read. -/
theorem readable_of_loadAll
    {store final : Store}
    {requests : List (String × List String)}
    (loads : loadAll tree directory store requests = .ok final) :
    ∀ request ∈ requests,
      (tree.text? (mainPath directory request.1)).isSome ∧
        Readable tree directory request.1 request.2 := by
  induction requests generalizing store with
  | nil =>
      intro request member
      cases member
  | cons first rest inductionHypothesis =>
      obtain ⟨next, loadsFirst, loadsRest⟩ := exists_of_bind_eq_ok loads
      obtain ⟨readable, templates, -, isMain, -⟩ :=
        exists_templates_of_load loadsFirst
      intro request member
      rcases List.mem_cons.mp member with isFirst | inRest
      · rw [isFirst]
        exact ⟨by simp [isMain], readable⟩
      · exact inductionHypothesis loadsRest request inRest

/-- A namespace has a main template once it has been loaded. -/
theorem main?_isSome_of_loadAll
    {store : Store}
    {requests : List (String × List String)}
    {request : String × List String}
    (loads : loadAll tree directory .empty requests = .ok store)
    (member : request ∈ requests) :
    (store.main? request.1).isSome = true := by
  have holds := HoldsLast.empty.loadAll loads
  have requested : (lastRequest? requests request.1).isSome = true := by
    simpa [lastRequest?] using ⟨request.2, member⟩
  rw [List.nil_append] at holds
  rw [holds.main?_eq, if_pos requested]
  exact (readable_of_loadAll loads request member).1

end CatalogSite.Template.Store
