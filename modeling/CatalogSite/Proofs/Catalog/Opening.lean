import CatalogSite.Proofs.Server.CatalogRuns

namespace CatalogSite

/-!
# Opening a catalog and reading it again

A catalog file is read when the catalog is opened and at every refresh, by two rules.
They agree on every file, whatever its bytes are, and on a path where there is nothing.
They part where something stands at the path that is no file: opening takes a directory,
or a path that goes on below a file, for an empty catalog, and a refresh fails.
-/

variable {tree : FileTree} {path : String} {games : List Game}

/-- Something other than a file stands at a path or on the way to it. -/
def FileTree.IsObstructed
    (tree : FileTree)
    (path : String) : Prop :=
  tree.entry path = .directory ∨ tree.entry path = .belowFile

/-- Reading an obstructed path fails. -/
theorem FileTree.readText_of_obstructed
    (obstructed : tree.IsObstructed path) :
    ∃ reason,
      tree.readText path = .error reason ∧ reason ≠ .missing := by
  rcases obstructed with isDirectory | isBelowFile
  · exact ⟨.directory, by rw [readText, isDirectory], by decide⟩
  · exact ⟨.belowFile, by rw [readText, isBelowFile], by decide⟩

namespace GameStore

variable [RefusalWords]

theorem openFile_of_obstructed
    (obstructed : tree.IsObstructed path) :
    openFile tree path = .ok ⟨some path, []⟩ := by
  rcases obstructed with isDirectory | isBelowFile
  · rw [openFile, isDirectory]
  · rw [openFile, isBelowFile]

/-- A refresh tells why it cannot read what is not missing. -/
theorem refresh_of_readText_error
    {reason : ReadError}
    (fails : tree.readText path = .error reason)
    (present : reason ≠ .missing)
    (games : List Game) :
    GameStore.refresh ⟨some path, games⟩ tree =
      .error (.io reason.detail) := by
  rw [refresh_eq, FileTree.catalogGames, fails]
  cases reason with
  | missing =>
      exact (present rfl).elim
  | directory =>
      rfl
  | belowFile =>
      rfl
  | notText =>
      rfl

theorem refresh_of_obstructed
    (obstructed : tree.IsObstructed path)
    (games : List Game) :
    ∃ reason,
      tree.readText path = .error reason ∧
        GameStore.refresh ⟨some path, games⟩ tree =
          .error (.io reason.detail) := by
  obtain ⟨reason, fails, present⟩ :=
    FileTree.readText_of_obstructed obstructed
  exact ⟨reason, fails, refresh_of_readText_error fails present games⟩

/-- Without an obstruction opening a catalog is reading what its file says. -/
theorem openFile_eq_of_unobstructed
    (unobstructed : ¬ tree.IsObstructed path) :
    openFile tree path =
      (tree.catalogGames path).map fun read => ⟨some path, read⟩ := by
  unfold openFile FileTree.catalogGames FileTree.readText
  cases found : tree.entry path with
  | file content =>
      cases isText : content.text? with
      | none =>
          simp only [isText]
          rfl
      | some text =>
          simp only [isText]
  | missing =>
      rfl
  | directory =>
      exact (unobstructed (.inl found)).elim
  | belowFile =>
      exact (unobstructed (.inr found)).elim

/-- A catalog that cannot be read gives one of two causes, with its detail. -/
theorem cause_of_catalogGames
    {cause : CatalogError}
    (fails : tree.catalogGames path = .error cause) :
    (∃ reason,
      tree.readText path = .error reason ∧
        cause = .io reason.detail) ∨
      ∃ text,
        tree.readText path = .ok text ∧
          cause = .malformed (RefusalWords.detail text) := by
  unfold FileTree.catalogGames at fails
  split at fails
  · rename_i text isText
    unfold readGames at fails
    split at fails
    · cases fails
    · cases fails
      exact .inr ⟨text, isText, rfl⟩
  · cases fails
  · rename_i reason _ isReason
    cases fails
    exact .inl ⟨reason, isReason, rfl⟩

/--
A refresh reads what opening reads, unless the path is obstructed, and only then: both
give the same entries or fail for the same cause, which is the file itself or its text.
Where there is an obstruction opening succeeds without entries, and the refresh fails
with the reason why the path cannot be read.
-/
theorem refresh_eq_openFile_iff
    (tree : FileTree)
    (path : String)
    (games : List Game) :
    let reread := GameStore.refresh ⟨some path, games⟩ tree
    (reread = openFile tree path ↔ ¬ tree.IsObstructed path) ∧
      (tree.IsObstructed path →
        openFile tree path = .ok ⟨some path, []⟩ ∧
          ∃ reason,
            tree.readText path = .error reason ∧
              reread = .error (.io reason.detail)) ∧
      ∀ cause,
        reread = .error cause →
          (∃ reason,
            tree.readText path = .error reason ∧
              cause = .io reason.detail) ∨
            ∃ text,
              tree.readText path = .ok text ∧
                cause = .malformed (RefusalWords.detail text) := by
  intro reread
  refine ⟨⟨?_, ?_⟩, ?_, ?_⟩
  · intro alike obstructed
    obtain ⟨reason, -, fails⟩ := refresh_of_obstructed obstructed games
    have same : reread = .ok ⟨some path, []⟩ :=
      alike.trans (openFile_of_obstructed obstructed)
    cases same.symm.trans fails
  · intro unobstructed
    rw [openFile_eq_of_unobstructed unobstructed]
    exact refresh_eq tree path games
  · intro obstructed
    exact
      ⟨openFile_of_obstructed obstructed,
        refresh_of_obstructed obstructed games⟩
  · intro cause fails
    have read :
        (tree.catalogGames path).map
            (fun read => (⟨some path, read⟩ : GameStore)) =
          .error cause :=
      (refresh_eq tree path games).symm.trans fails
    cases found : tree.catalogGames path with
    | ok games =>
        rw [found] at read
        cases read
    | error other =>
        rw [found] at read
        cases read
        exact cause_of_catalogGames found

end GameStore

/-- A directory is opened as a catalog, and the next refresh of it fails. -/
theorem GameStore.exists_refresh_fails_where_openFile_succeeds :
    ∃ (tree : FileTree) (path : String) (store : GameStore),
      ∀ [RefusalWords],
        openFile tree path = .ok store ∧
          store.refresh tree =
            .error (.io "Is a directory (os error 21)") := by
  let tree : FileTree :=
    ⟨[(["data", "catalog.json", "part.txt"], .text "")]⟩
  let path := "data/catalog.json"
  have isDirectory : tree.entry path = .directory := by
    decide
  have fails : tree.readText path = .error .directory := by
    rw [FileTree.readText, isDirectory]
  have present : ReadError.directory ≠ .missing := by
    decide
  exact
    ⟨tree, path, ⟨some path, []⟩,
      openFile_of_obstructed (.inl isDirectory),
      refresh_of_readText_error fails present []⟩

end CatalogSite
