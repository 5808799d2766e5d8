import CatalogSite.Proofs.Files.Location
import CatalogSite.Proofs.Site.Assembled
import CatalogSite.Proofs.Site.Targets
import CatalogSite.Route.Access

namespace CatalogSite

/-!
# Served files stay below their directory

A path leads to a file of the static directory only when all of its components are
ordinary names. Whatever the path of a URL looks like, the file that is served then
lies at a place below the place of that directory.
-/

/-- One name, which leads from a directory to something directly below it. -/
def Path.IsOrdinary
    (name : String) : Prop :=
  name ≠ "" ∧ name ≠ "." ∧ name ≠ ".." ∧ '/' ∉ name.toList

/--
A path leads to a file below a directory.

The file is found under the path joined to the directory. At least one name leads to
it from there, and all of these names are ordinary.
-/
structure FileTree.ServesBelow
    (tree : FileTree)
    (directory path full : String) : Prop where
  joined : full = Path.join directory path
  relative : Path.isAbsolute path = false
  below :
    ∃ ordinary : List String,
      ordinary ≠ [] ∧
        (∀ name ∈ ordinary, Path.IsOrdinary name) ∧
        Path.components path = ordinary.map .normal ∧
        Path.components full =
          Path.components directory ++ ordinary.map .normal ∧
        place full = place directory ++ ordinary
  isFile :
    ∃ content,
      tree.entry full = .file content ∧
        tree.fileAt? (place full) = some content

theorem FileTree.exists_content_of_isFile
    {tree : FileTree}
    {path : String}
    (isFile : tree.isFile path = true) :
    ∃ content, tree.entry path = .file content := by
  unfold FileTree.isFile at isFile
  split at isFile
  · rename_i content found
    exact ⟨content, found⟩
  · cases isFile

/-- A file that may be served lies below the directory that it is served from. -/
theorem FileTree.servesBelow_of_servedFile?
    {tree : FileTree}
    {directory path full : String}
    (served : tree.servedFile? directory path = some full) :
    tree.ServesBelow directory path full := by
  unfold servedFile? at served
  dsimp only at served
  split at served
  · rename_i allowed
    rw [Bool.and_eq_true] at allowed
    obtain ⟨plain, isFile⟩ := allowed
    rw [Path.isPlain, Bool.and_eq_true, Bool.not_eq_true'] at plain
    obtain ⟨nonempty, ordinary⟩ := plain
    cases served
    have notEmpty : path ≠ "" := by
      simpa using nonempty
    obtain ⟨relative, -⟩ := Path.components_eq_filterMap ordinary
    obtain ⟨pathComponents, noParent⟩ :=
      Path.components_eq_map_normal ordinary
    obtain ⟨content, found⟩ := exists_content_of_isFile isFile
    refine
      { joined := rfl
        relative := relative
        below :=
          ⟨Path.solidNames path,
            Path.solidNames_ne_nil notEmpty ordinary, ?_, pathComponents,
            ?_, place_join directory ordinary⟩
        isFile := ⟨content, found, fileAt?_place found⟩ }
    · intro name member
      obtain ⟨isName, solid⟩ := List.mem_filter.mp member
      have notParent : name ≠ ".." := by
        rintro rfl
        exact noParent member
      have slashless : '/' ∉ name.toList :=
        Path.slash_notMem_of_mem_names isName
      simpa [Path.isSolid, Path.IsOrdinary, notParent, slashless]
        using solid
    · rw [Path.components_join directory ordinary, pathComponents]
  · cases served

namespace Site

/--
No served file lies outside the static directory.

This holds for every text that is looked up as a path, hence for the path of every
URL that is routed.
-/
theorem target?_servesBelow
    {site : Site}
    {tree : FileTree} :
    (∀ path full,
      site.target? tree path = some (.file full) →
      tree.ServesBelow site.config.staticDir path full) ∧
    (∀ url cookies routed full,
      site.route tree url cookies = .ok routed →
      routed.target = .file full →
      tree.ServesBelow site.config.staticDir url.routePath full) := by
  constructor
  · intro path full leads
    exact FileTree.servesBelow_of_servedFile?
      (declaredBy_of_target? leads)
  · intro url cookies routed full routes isFile
    have leads := target?_of_route routes
    rw [isFile] at leads
    exact FileTree.servesBelow_of_servedFile?
      (declaredBy_of_target? leads)

/-- A site without pages or endpoints, which serves files alone. -/
def fileSite : Site where
  config := .defaults
  templates := .empty
  locales := { default := "en", languages := .empty }
  pages := .empty
  endpoints := .empty
  hiddenTags := []
  statistics := .empty .epoch
  handlers := .empty

/-- A URL whose path has no structure leads to a file along empty names and a dot. -/
theorem target?_servesBelow_opaque :
    let tree : FileTree := ⟨[(["static", "css", "site.css"], .text "")]⟩
    let url : Url :=
      { scheme := ['x']
        authority := none
        path := .opaqueText "css//./site.css".toList
        query := none
        fragment := none }
    let full := "static/css//./site.css"
    fileSite.config.admitUrl "x:css//./site.css" = .ok url ∧
      fileSite.route tree url none =
        .ok ⟨url, ⟨"en", false⟩, .file full⟩ ∧
      tree.ServesBelow "static" "css//./site.css" full := by
  intro tree url full
  have admitted :
      fileSite.config.admitUrl "x:css//./site.css" = .ok url := by
    apply eq_ok_of_toOption_eq_some
    decide
  have routes :
      fileSite.route tree url none =
        .ok ⟨url, ⟨"en", false⟩, .file full⟩ := by
    apply eq_ok_of_toOption_eq_some
    decide
  exact
    ⟨admitted, routes,
      target?_servesBelow.2 url none _ full routes rfl⟩

end Site

end CatalogSite
