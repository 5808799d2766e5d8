import CatalogSite.Proofs.Template.Loading
import CatalogSite.Template.StoreRun

namespace CatalogSite.Template

/-!
# Runs of a template store

A step of filling a store fails exactly when a file that it asks for cannot be read, and
names the first such file. It has then read any number of files, but the store is as it
was: it is written once, after the last of them. A step that succeeds replaces all
templates of its namespace and leaves the others alone. After any sequence of steps,
failures among them, a namespace therefore has what the last step for it that succeeded
has given, and nothing of any other.
-/

/-! ## What a step gives -/

/-- The first of some files that cannot be read. -/
def firstUnreadable?
    (tree : FileTree)
    (paths : List String) :
    Option String :=
  paths.find? fun path => (tree.text? path).isNone

namespace StoreStep

/-- The first file that a step asks for and that cannot be read. -/
def unreadable? : StoreStep → Option String
  | .load tree directory namespaceName fragments =>
      firstUnreadable? tree
        (Store.mainPath directory namespaceName ::
          fragments.map (Store.fragmentPath directory namespaceName))
  | .insert _ _ => none

/-- The main template that a step gives its namespace. -/
def main? : StoreStep → Option String
  | .load tree directory namespaceName _ =>
      tree.text? (Store.mainPath directory namespaceName)
  | .insert _ templates => some templates.main

/-- A fragment that a step gives its namespace. -/
def fragment?
    (step : StoreStep)
    (fragment : String) :
    Option String :=
  match step with
  | .load tree directory namespaceName fragments =>
      if fragment ∈ fragments then
        tree.text? (Store.fragmentPath directory namespaceName fragment)
      else none
  | .insert _ templates => templates.fragments.get? fragment

/-- Templates are the ones that a step gives its namespace. -/
structure Gives
    (step : StoreStep)
    (templates : NamespaceTemplates) : Prop where
  main : step.main? = some templates.main
  fragment :
    ∀ fragment, step.fragment? fragment = templates.fragments.get? fragment

end StoreStep

/-- The last step for a namespace that succeeds. -/
def lastSuccess?
    (steps : List StoreStep)
    (namespaceName : String) :
    Option StoreStep :=
  steps.reverse.find? fun step =>
    step.namespaceName = namespaceName ∧ step.unreadable? = none

theorem lastSuccess?_concat
    (steps : List StoreStep)
    (step : StoreStep)
    (namespaceName : String) :
    lastSuccess? (steps ++ [step]) namespaceName =
      if step.namespaceName = namespaceName ∧ step.unreadable? = none then
        some step
      else lastSuccess? steps namespaceName := by
  rw [lastSuccess?, List.reverse_concat, List.find?_cons, lastSuccess?]
  by_cases isLast :
      step.namespaceName = namespaceName ∧ step.unreadable? = none
  · simp [isLast]
  · simp [isLast]

namespace Store

variable {tree : FileTree} {directory namespaceName path : String}
  {fragments : List String} {store : Store}

/-! ## Reading files -/

/-- How reading some files ends: it succeeds, or it names the first that cannot be read. -/
inductive Reads
    {α : Type}
    (tree : FileTree)
    (paths : List String) :
    Except LoadError α → Prop where
  | failed
      {path : String}
      (unreadable : firstUnreadable? tree paths = some path) :
      Reads tree paths (.error (.unreadableTemplate path))
  | done
      {value : α}
      (readable : firstUnreadable? tree paths = none) :
      Reads tree paths (.ok value)

namespace Reads

variable {α β : Type} {paths : List String}

/-- A file that is read first is the first one that can be unreadable. -/
theorem cons
    {next : String → Except LoadError α}
    (reads : ∀ text, Reads tree paths (next text)) :
    Reads tree (path :: paths) (readTemplate tree path >>= next) := by
  unfold readTemplate
  cases isText : tree.text? path with
  | none =>
      have isFirst : firstUnreadable? tree (path :: paths) = some path :=
        List.find?_cons_of_pos (by rw [isText]; rfl)
      exact .failed isFirst
  | some text =>
      have passed :
          firstUnreadable? tree (path :: paths) =
            firstUnreadable? tree paths :=
        List.find?_cons_of_neg (by simp [isText])
      have later := reads text
      dsimp only [bind, Except.bind]
      generalize next text = result at later
      cases later with
      | failed unreadable =>
          exact .failed (passed.trans unreadable)
      | done readable =>
          exact .done (passed.trans readable)

/-- What is made of the texts does not matter for how reading them ends. -/
theorem use
    {result : Except LoadError α}
    (reads : Reads tree paths result)
    (make : α → β) :
    Reads tree paths (result >>= fun value => .ok (make value)) := by
  cases reads with
  | failed unreadable =>
      exact .failed unreadable
  | done readable =>
      exact .done readable

end Reads

theorem reads_readFragments
    (tree : FileTree)
    (directory namespaceName : String)
    (loaded : Dictionary String)
    (fragments : List String) :
    Reads tree (fragments.map (fragmentPath directory namespaceName))
      (readFragments tree directory namespaceName loaded fragments) := by
  induction fragments generalizing loaded with
  | nil =>
      exact .done rfl
  | cons fragment rest inductionHypothesis =>
      exact .cons fun text => inductionHypothesis (loaded.insert fragment text)

/-- Loading reads the main template and then the fragments. -/
theorem reads_load
    (store : Store)
    (tree : FileTree)
    (directory namespaceName : String)
    (fragments : List String) :
    Reads tree
      (mainPath directory namespaceName ::
        fragments.map (fragmentPath directory namespaceName))
      (store.load tree directory namespaceName fragments) :=
  .cons fun main =>
    (reads_readFragments tree directory namespaceName .empty
      fragments).use
        fun loaded =>
          store.insert namespaceName ⟨main, loaded⟩

/-! ## One step -/

/-- Reading the fragments in place leaves the store alone. -/
theorem forIn_readTemplate
    (tree : FileTree)
    (directory namespaceName : String)
    (store : Store)
    (loaded : Dictionary String)
    (fragments : List String) :
    (forIn fragments loaded fun fragment loaded => do
        let text ← MonadExcept.ofExcept
          (readTemplate tree
            (fragmentPath directory namespaceName fragment))
        pure (.yield (loaded.insert fragment text)) :
        EStateM LoadError Store (Dictionary String)) store =
      (MonadExcept.ofExcept
        (readFragments tree directory namespaceName loaded fragments) :
        EStateM LoadError Store (Dictionary String)) store := by
  induction fragments generalizing loaded with
  | nil =>
      rfl
  | cons fragment rest inductionHypothesis =>
      rw [List.forIn_cons, readFragments]
      cases readTemplate tree
          (fragmentPath directory namespaceName fragment) with
      | error cause =>
          rfl
      | ok text =>
          exact inductionHypothesis (loaded.insert fragment text)

/-- Loading in place is loading; the store is written only when it succeeds. -/
theorem perform_load
    (store : Store)
    (tree : FileTree)
    (directory namespaceName : String)
    (fragments : List String) :
    (StoreStep.load tree directory namespaceName fragments).perform store =
      match store.load tree directory namespaceName fragments with
      | .ok next => .ok () next
      | .error cause => .error cause store := by
  rw [load, StoreStep.perform]
  cases readTemplate tree (mainPath directory namespaceName) with
  | error cause =>
      rfl
  | ok main =>
      have inPlace :=
        forIn_readTemplate tree directory namespaceName store .empty
          fragments
      have opened :
          (MonadExcept.ofExcept (.ok main : Except LoadError String) :
            EStateM LoadError Store String) store = .ok main store :=
        rfl
      simp only [bind, EStateM.bind, Except.bind] at inPlace ⊢
      simp only [opened, inPlace]
      cases readFragments tree directory namespaceName .empty
          fragments <;> rfl

end Store

/-- What a step does to a store: it fails and keeps it, or gives its namespace templates. -/
inductive StoreStep.Performs
    (step : StoreStep)
    (store : Store) :
    EStateM.Result LoadError Store Unit → Prop where
  | failed
      {path : String}
      (unreadable : step.unreadable? = some path) :
      Performs step store (.error (.unreadableTemplate path) store)
  | done
      {templates : NamespaceTemplates}
      (readable : step.unreadable? = none)
      (gives : step.Gives templates) :
      Performs step store
        (.ok () (store.insert step.namespaceName templates))

theorem StoreStep.performs_perform
    (step : StoreStep)
    (store : Store) :
    step.Performs store (step.perform store) := by
  cases step with
  | insert namespaceName templates =>
      exact .done rfl ⟨rfl, fun _ => rfl⟩
  | load tree directory namespaceName fragments =>
      rw [Store.perform_load]
      have reads :=
        Store.reads_load store tree directory namespaceName fragments
      cases loads : store.load tree directory namespaceName fragments with
      | error cause =>
          rw [loads] at reads
          cases reads with
          | failed unreadable =>
              exact .failed unreadable
      | ok next =>
          rw [loads] at reads
          cases reads with
          | done readable =>
              obtain ⟨-, templates, written, isMain, areFragments⟩ :=
                Store.exists_templates_of_load loads
              rw [written]
              exact
                .done readable
                  ⟨isMain, fun fragment => (areFragments fragment).symm⟩

/-! ## Runs -/

namespace Store

/-- A store answers for each namespace what the last successful step for it gives. -/
structure AnswersFrom
    (steps : List StoreStep)
    (store : Store) : Prop where
  main?_eq :
    ∀ namespaceName,
      store.main? namespaceName =
        (lastSuccess? steps namespaceName).bind StoreStep.main?
  fragment?_eq :
    ∀ namespaceName fragment,
      store.fragment? namespaceName fragment =
        (lastSuccess? steps namespaceName).bind (·.fragment? fragment)

namespace AnswersFrom

variable {store : Store} {done : List StoreStep}

theorem empty :
    AnswersFrom [] Store.empty where
  main?_eq _ := rfl
  fragment?_eq _ _ := rfl

/-- A further step decides about its own namespace if it succeeds, and about none else. -/
theorem after
    (answers : AnswersFrom done store)
    (step : StoreStep) :
    AnswersFrom (done ++ [step]) (store.after step) := by
  have performed := step.performs_perform store
  unfold Store.after
  generalize step.perform store = result at performed
  cases performed with
  | failed unreadable =>
      have notLast (name : String) :
          ¬ (step.namespaceName = name ∧ step.unreadable? = none) := by
        rintro ⟨-, readable⟩
        cases unreadable.symm.trans readable
      constructor
      · intro name
        rw [lastSuccess?_concat, if_neg (notLast name), answers.main?_eq]
      · intro name fragment
        rw [lastSuccess?_concat, if_neg (notLast name),
          answers.fragment?_eq]
  | done readable gives =>
      constructor
      · intro name
        rw [lastSuccess?_concat, main?_insert, answers.main?_eq]
        by_cases same : step.namespaceName = name
        · simp [same, readable, gives.main]
        · simp [same]
      · intro name fragment
        rw [lastSuccess?_concat, fragment?_insert, answers.fragment?_eq]
        by_cases same : step.namespaceName = name
        · simp [same, readable, gives.fragment]
        · simp [same]

theorem run
    (answers : AnswersFrom done store)
    (steps : List StoreStep) :
    AnswersFrom (done ++ steps) (store.run steps) := by
  -- The steps that have been done are part of the invariant, and grow at their end.
  induction steps generalizing store done with
  | nil =>
      rw [List.append_nil]
      exact answers
  | cons step rest inductionHypothesis =>
      have later := inductionHypothesis (answers.after step)
      rw [List.append_assoc] at later
      exact later

end AnswersFrom

/--
A store answers from the last successful step for each namespace alone.

Let a store be filled by any sequence of steps, each of them a loading of a namespace from
a disk and a directory of its own, or templates that are given directly. For each namespace
the main template and all fragments are the ones that the last step for it that succeeded
has given; without such a step there are none. A further step fails exactly when a file
that it asks for cannot be read; it then names the first such file and leaves the store as
it was. Otherwise it decides about its own namespace and leaves all others alone.
-/
theorem run_answers
    (steps : List StoreStep) :
    let store := Store.empty.run steps
    (∀ name,
      store.main? name = (lastSuccess? steps name).bind StoreStep.main? ∧
        ∀ fragment,
          store.fragment? name fragment =
            (lastSuccess? steps name).bind (·.fragment? fragment)) ∧
    ∀ step : StoreStep,
      (∀ path,
        step.unreadable? = some path →
          step.perform store = .error (.unreadableTemplate path) store) ∧
      (step.unreadable? = none →
        ∃ next,
          step.perform store = .ok () next ∧
            (∀ name, name ≠ step.namespaceName →
              next.main? name = store.main? name) ∧
            (∀ name fragment, name ≠ step.namespaceName →
              next.fragment? name fragment =
                store.fragment? name fragment) ∧
            next.main? step.namespaceName = step.main? ∧
            ∀ fragment,
              next.fragment? step.namespaceName fragment =
                step.fragment? fragment) := by
  intro store
  have answers : AnswersFrom steps store := AnswersFrom.empty.run steps
  refine
    ⟨fun name => ⟨answers.main?_eq name, answers.fragment?_eq name⟩, ?_⟩
  intro step
  have performed := step.performs_perform store
  generalize step.perform store = result at performed
  cases performed with
  | failed unreadable =>
      constructor
      · intro path isFirst
        cases unreadable.symm.trans isFirst
        rfl
      · intro readable
        cases unreadable.symm.trans readable
  | @done templates readable gives =>
      constructor
      · intro path isFirst
        cases readable.symm.trans isFirst
      · intro _
        refine
          ⟨store.insert step.namespaceName templates, rfl, ?_, ?_, ?_, ?_⟩
        · intro name other
          rw [main?_insert, if_neg (Ne.symm other)]
        · intro name fragment other
          rw [fragment?_insert, if_neg (Ne.symm other)]
        · rw [main?_insert, if_pos rfl, gives.main]
        · intro fragment
          rw [fragment?_insert, if_pos rfl, gives.fragment]

/-- The disk of a namespace with one fragment. -/
def firstDisk : FileTree where
  files :=
    [(["t", "home.html"], .text "home"),
      (["t", "home_top.html"], .text "top")]

/-- A later disk, on which a second fragment is no text. -/
def laterDisk : FileTree where
  files :=
    [(["t", "home.html"], .text "other"),
      (["t", "home_top.html"], .text "other top"),
      (["t", "home_end.html"], .binary [0xFF])]

/--
A loading that fails after its main template and a first fragment changes nothing, and a
namespace that is given again keeps no fragment.
-/
theorem run_answers_failing :
    let first : StoreStep := .load firstDisk "t" "home" ["top"]
    let given : StoreStep := .insert "news" ⟨"news", .empty⟩
    let failing : StoreStep := .load laterDisk "t" "home" ["top", "end"]
    let store := Store.empty.run [first, given, failing]
    failing.unreadable? = some "t/home_end.html" ∧
      failing.perform store =
        .error (.unreadableTemplate "t/home_end.html") store ∧
      store.main? "home" = some "home" ∧
      store.fragment? "home" "top" = some "top" ∧
      store.fragment? "home" "end" = none ∧
      store.main? "news" = some "news" ∧
      ∃ next,
        (StoreStep.insert "home" ⟨"short", .empty⟩).perform store =
            .ok () next ∧
          next.fragment? "home" "top" = none := by
  intro first given failing store
  have unreadable : failing.unreadable? = some "t/home_end.html" := by
    decide
  have lastHome :
      lastSuccess? [first, given, failing] "home" = some first := by
    decide
  have lastNews :
      lastSuccess? [first, given, failing] "news" = some given := by
    decide
  obtain ⟨answers, further⟩ := run_answers [first, given, failing]
  obtain ⟨homeMain, homeFragment⟩ := answers "home"
  obtain ⟨newsMain, -⟩ := answers "news"
  rw [lastHome] at homeMain homeFragment
  rw [lastNews] at newsMain
  obtain ⟨next, performs, -, -, -, gives⟩ :=
    (further (.insert "home" ⟨"short", .empty⟩)).2 rfl
  refine
    ⟨unreadable, (further failing).1 _ unreadable, homeMain.trans ?_,
      (homeFragment "top").trans ?_, (homeFragment "end").trans ?_,
      newsMain, next, performs, gives "top"⟩
  · decide
  · decide
  · decide

end Store

end CatalogSite.Template
