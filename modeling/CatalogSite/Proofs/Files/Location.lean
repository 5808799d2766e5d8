import CatalogSite.Route.Target

namespace CatalogSite

/-!
# Where a path leads in a file tree

Following a path ends at the place that its names spell out, whatever directories
lie on the way. Joining a relative path to a directory appends its names to those of
the directory. When its components are ordinary names, the joined path leads to a
place that begins with the place of the directory: ordinary names never climb.
-/

namespace Path

theorem names_append_slash
    (first second : String) :
    names (first ++ "/" ++ second) = names first ++ names second := by
  simp [names, List.splitOnP_append_cons]

/-- No name of a path holds a slash. -/
theorem slash_notMem_of_mem_names
    {path name : String}
    (member : name ∈ names path) :
    '/' ∉ name.toList := by
  have pieces
      (text : List Char) :
      ∀ piece ∈ text.splitOnP (· == '/'), '/' ∉ piece := by
    induction text with
    | nil =>
        simp
    | cons c rest inductionHypothesis =>
        obtain ⟨first, others, shape⟩ :=
          List.exists_cons_of_ne_nil
            (List.splitOnP_ne_nil (· == '/') rest)
        rw [shape] at inductionHypothesis
        rw [List.splitOnP_cons_eq_if_modifyHead, shape]
        by_cases isSlash : c = '/'
        · simpa [isSlash] using inductionHypothesis
        · simpa [isSlash, Ne.symm isSlash] using inductionHypothesis
  obtain ⟨piece, isPiece, isName⟩ := List.mem_map.mp member
  rw [← isName, String.toList_ofList]
  exact pieces path.toList piece isPiece

/-- What follows the beginning of a path does not decide whether it is absolute. -/
theorem isAbsolute_append
    {first : String}
    (nonempty : first ≠ "")
    (second : String) :
    isAbsolute (first ++ second) = isAbsolute first := by
  cases shape : first.toList with
  | nil =>
      exact absurd (String.toList_eq_nil_iff.mp shape) nonempty
  | cons c rest =>
      simp only [isAbsolute, Text.startsWith, String.toList_append, shape,
        List.cons_append, Text.dropPrefix?]
      split <;> rfl

/-- Joining a relative path puts one slash between the two, unless it is there already. -/
theorem join_eq_or
    {directory path : String}
    (nonempty : directory ≠ "")
    (relative : isAbsolute path = false) :
    join directory path = directory ++ "/" ++ path ∨
      ∃ front,
        directory = front ++ "/" ∧
          join directory path = front ++ "/" ++ path := by
  have notEmpty : directory.isEmpty = false := by
    simpa using nonempty
  by_cases closed : directory.toList.getLast? = some '/'
  · obtain ⟨front, shape⟩ := List.getLast?_eq_some_iff.mp closed
    have isFront : directory = String.ofList front ++ "/" := by
      rw [← String.toList_inj, shape]
      simp
    refine .inr ⟨String.ofList front, isFront, ?_⟩
    rw [← isFront]
    simp [join, relative, notEmpty, closed]
  · simp [join, relative, notEmpty, closed]

theorem isAbsolute_join
    {directory path : String}
    (relative : isAbsolute path = false) :
    isAbsolute (join directory path) = isAbsolute directory := by
  by_cases empty : directory = ""
  · subst empty
    have rootless : isAbsolute "" = false := by
      decide
    rw [rootless, ← relative]
    simp [join]
  · rcases join_eq_or empty relative with joined | ⟨front, isFront, joined⟩
    · rw [joined, String.append_assoc, isAbsolute_append empty]
    · rw [joined, ← isFront, isAbsolute_append empty]

/--
Joining appends the names of the relative path.

A slash at the end of the directory has an empty name behind it, which the joined path
does not have.
-/
theorem exists_names_join
    {directory path : String}
    (nonempty : directory ≠ "")
    (relative : isAbsolute path = false) :
    ∃ first others closing,
      names directory = first :: others ++ closing ∧
        names (join directory path) = first :: others ++ names path ∧
        ∀ name ∈ closing, name = "" := by
  have hasFirst (text : String) :
      ∃ first others, names text = first :: others :=
    List.exists_cons_of_ne_nil
      (by simp [names])
  rcases join_eq_or nonempty relative with joined | ⟨front, isFront, joined⟩
  · obtain ⟨first, others, shape⟩ := hasFirst directory
    refine ⟨first, others, [], ?_, ?_, ?_⟩
    · simpa using shape
    · rw [joined, names_append_slash, shape]
    · simp
  · obtain ⟨first, others, shape⟩ := hasFirst front
    refine ⟨first, others, [""], ?_, ?_, ?_⟩
    · rw [isFront, ← String.append_empty (s := front ++ "/"),
        names_append_slash, shape]
      rfl
    · rw [joined, names_append_slash, shape]
    · simp

/-- Whether a name leads from one directory to another. -/
def isSolid
    (name : String) :
    Bool :=
  name ≠ "" && name ≠ "."

/-- The names of a path that lead from one directory to another. -/
def solidNames
    (path : String) :
    List String :=
  (names path).filter isSolid

/-- Only names that lead to another directory count behind the first name. -/
theorem component?_false_eq
    (name : String) :
    component? false name =
      if isSolid name then
        some (if name = ".." then .parent else .normal name)
      else none := by
  by_cases isEmpty : name = ""
  · simp [component?, isSolid, isEmpty]
  · by_cases isDot : name = "."
    · simp [component?, isSolid, isDot]
    · by_cases isParent : name = ".." <;>
        simp [component?, isSolid, isEmpty, isDot, isParent]

theorem solidNames_join
    {directory path : String}
    (relative : isAbsolute path = false) :
    solidNames (join directory path) =
      solidNames directory ++ solidNames path := by
  by_cases empty : directory = ""
  · subst empty
    have nothing : solidNames "" = [] := by
      decide
    simp [join, nothing]
  · obtain ⟨first, others, closing, shape, joined, blank⟩ :=
      exists_names_join empty relative
    have nothing : closing.filter isSolid = [] := by
      rw [List.filter_eq_nil_iff]
      intro name member
      simp [isSolid, blank name member]
    unfold solidNames
    rw [shape, joined, List.filter_append, List.filter_append, nothing,
      List.append_nil]

/-- The first name of a path of ordinary names counts like the others. -/
theorem components_eq_filterMap
    {path : String}
    (ordinary : (components path).all Component.isNormal = true) :
    isAbsolute path = false ∧
      components path = (names path).filterMap (component? false) := by
  unfold components at ordinary ⊢
  cases shape : names path with
  | nil =>
      simp [names] at shape
  | cons first others =>
      simp only [shape, List.all_append, Bool.and_eq_true] at ordinary ⊢
      obtain ⟨firstNormal, -⟩ := ordinary
      cases relative : isAbsolute path with
      | true =>
          simp [relative, Component.isNormal] at firstNormal
      | false =>
          have notDot : first ≠ "." := by
            rintro rfl
            simp [relative, component?, Component.isNormal] at firstNormal
          have sameFirst : component? true first = component? false first := by
            simp [component?, notDot]
          refine ⟨rfl, ?_⟩
          rw [if_neg (by simp), sameFirst, List.filterMap_cons]
          cases component? false first <;> rfl

/-- Names whose components are ordinary are their own components, and none climbs. -/
theorem filterMap_component?_of_allNormal
    {segments : List String}
    (ordinary :
      (segments.filterMap (component? false)).all Component.isNormal =
        true) :
    segments.filterMap (component? false) =
        (segments.filter isSolid).map .normal ∧
      ".." ∉ segments.filter isSolid := by
  induction segments with
  | nil =>
      simp
  | cons name rest inductionHypothesis =>
      rw [List.filterMap_cons, component?_false_eq] at ordinary ⊢
      cases solid : isSolid name with
      | false =>
          simp only [solid, Bool.false_eq_true, if_false] at ordinary ⊢
          rw [List.filter_cons_of_neg (by simp [solid])]
          exact inductionHypothesis ordinary
      | true =>
          simp only [solid, if_true, List.all_cons, Bool.and_eq_true]
            at ordinary ⊢
          obtain ⟨nameNormal, restNormal⟩ := ordinary
          have notParent : name ≠ ".." := by
            rintro rfl
            simp [Component.isNormal] at nameNormal
          obtain ⟨restComponents, noParent⟩ :=
            inductionHypothesis restNormal
          rw [List.filter_cons_of_pos solid, if_neg notParent,
            restComponents]
          simp [noParent, Ne.symm notParent]

/-- The components of a path of ordinary names are the names that lead somewhere. -/
theorem components_eq_map_normal
    {path : String}
    (ordinary : (components path).all Component.isNormal = true) :
    components path = (solidNames path).map .normal ∧
      ".." ∉ solidNames path := by
  obtain ⟨-, shape⟩ := components_eq_filterMap ordinary
  rw [shape] at ordinary ⊢
  exact filterMap_component?_of_allNormal ordinary

/-- Joining a path of ordinary names appends its components to those of the directory. -/
theorem components_join
    {path : String}
    (directory : String)
    (ordinary : (components path).all Component.isNormal = true) :
    components (join directory path) =
      components directory ++ components path := by
  obtain ⟨relative, pathComponents⟩ := components_eq_filterMap ordinary
  by_cases empty : directory = ""
  · subst empty
    have nothing : components "" = [] := by
      decide
    simp [join, nothing]
  · obtain ⟨first, others, closing, shape, joined, blank⟩ :=
      exists_names_join empty relative
    have nothing : closing.filterMap (component? false) = [] := by
      rw [List.filterMap_eq_nil_iff]
      intro name member
      simp [component?, blank name member]
    rw [pathComponents]
    unfold components
    simp only [shape, joined, List.cons_append, List.filterMap_append, nothing,
      isAbsolute_join relative, List.append_nil, List.append_assoc]

/-- A relative path that is not empty starts with a name that is not empty. -/
theorem exists_first_name
    {path : String}
    (nonempty : path ≠ "")
    (relative : isAbsolute path = false) :
    ∃ first others, first ≠ "" ∧ names path = first :: others := by
  cases shape : path.toList with
  | nil =>
      exact absurd (String.toList_eq_nil_iff.mp shape) nonempty
  | cons c rest =>
      have notSlash : c ≠ '/' := by
        rintro rfl
        simp [isAbsolute, Text.startsWith, Text.dropPrefix?, shape] at relative
      obtain ⟨segment, segments, split⟩ :=
        List.exists_cons_of_ne_nil (List.splitOnP_ne_nil (· == '/') rest)
      refine
        ⟨String.ofList (c :: segment), segments.map String.ofList, ?_, ?_⟩
      · simp
      · simp [names, shape, List.splitOnP_cons_eq_if_modifyHead, notSlash,
          split]

/-- A path of ordinary names that is not empty has a name that leads somewhere. -/
theorem solidNames_ne_nil
    {path : String}
    (nonempty : path ≠ "")
    (ordinary : (components path).all Component.isNormal = true) :
    solidNames path ≠ [] := by
  obtain ⟨relative, shape⟩ := components_eq_filterMap ordinary
  obtain ⟨first, others, firstNonempty, isFirst⟩ :=
    exists_first_name nonempty relative
  have notDot : first ≠ "." := by
    rintro rfl
    simp [components, isFirst, relative, component?, Component.isNormal]
      at ordinary
  have solid : isSolid first = true := by
    simp [isSolid, firstNonempty, notDot]
  rw [solidNames, isFirst, List.filter_cons_of_pos solid]
  exact List.cons_ne_nil _ _

end Path

namespace FileTree

open CatalogSite.Path

/-- The place that a name leads to from another place. -/
def enter
    (place : List String)
    (name : String) :
    List String :=
  if name = "." then place
  else if name = ".." then parent place
  else place ++ [name]

/-- A name that does not stand for a directory relative to a place leads below it. -/
theorem enter_eq_append
    {name : String}
    (place : List String)
    (notDot : name ≠ ".")
    (notParent : name ≠ "..") :
    enter place name = place ++ [name] := by
  rw [enter, if_neg notDot, if_neg notParent]

theorem foldl_enter_filter_isSolid
    (segments place : List String) :
    (segments.filter isSolid).foldl enter place =
      (segments.filter (· ≠ "")).foldl enter place := by
  induction segments generalizing place with
  | nil =>
      rfl
  | cons name rest inductionHypothesis =>
      by_cases isEmpty : name = ""
      · simpa [isEmpty, isSolid] using inductionHypothesis place
      · by_cases isDot : name = "."
        · simpa [isDot, isSolid, enter] using inductionHypothesis place
        · simpa [isEmpty, isDot, isSolid] using
            inductionHypothesis (enter place name)

/-- A path leads from its origin along the names that lead somewhere. -/
theorem place_eq_foldl_enter
    (path : String) :
    place path = (solidNames path).foldl enter (origin path) := by
  rw [solidNames, foldl_enter_filter_isSolid]
  unfold place steps
  dsimp only
  split
  · rw [List.foldl_append]
    rfl
  · rfl

/-- Names that lead somewhere, but never up, lead to a place below. -/
theorem foldl_enter_of_solid
    {segments : List String}
    (place : List String)
    (solid : ∀ name ∈ segments, isSolid name = true)
    (noParent : ".." ∉ segments) :
    segments.foldl enter place = place ++ segments := by
  induction segments generalizing place with
  | nil =>
      simp
  | cons name rest inductionHypothesis =>
      rw [List.mem_cons, not_or] at noParent
      obtain ⟨notParent, noParentRest⟩ := noParent
      have notDot : name ≠ "." := by
        rintro rfl
        simpa [isSolid] using solid "." List.mem_cons_self
      rw [List.foldl_cons, enter_eq_append place notDot (Ne.symm notParent),
        inductionHypothesis _
          (fun other member => solid other (.tail name member))
          noParentRest]
      simp

/-- Joining a path of ordinary names leads below the place of the directory. -/
theorem place_join
    {path : String}
    (directory : String)
    (ordinary : (components path).all Component.isNormal = true) :
    place (join directory path) = place directory ++ solidNames path := by
  obtain ⟨relative, -⟩ := components_eq_filterMap ordinary
  have sameOrigin : origin (join directory path) = origin directory := by
    simp only [origin, isAbsolute_join relative]
  rw [place_eq_foldl_enter, solidNames_join relative, List.foldl_append,
    sameOrigin, ← place_eq_foldl_enter]
  exact foldl_enter_of_solid _
    (fun _ member => (List.mem_filter.mp member).2)
    (components_eq_map_normal ordinary).2

/-- Following names to a file ends at the place that they lead to. -/
theorem fileAt?_of_follow
    {tree : FileTree}
    {start segments : List String}
    {content : FileContent}
    (found : tree.follow start segments = .file content) :
    tree.fileAt? (segments.foldl enter start) = some content := by
  -- Of all cases of following, only the fourth ends at a file; the others go on or fail.
  fun_induction follow tree start segments with
  | case1 =>
      cases found
  | case2 place rest inductionHypothesis =>
      exact inductionHypothesis found
  | case3 place rest inductionHypothesis =>
      exact inductionHypothesis found
  | case4 place name rest notDot notParent next there isFile isLast =>
      cases found
      rw [List.isEmpty_iff.mp isLast, List.foldl_cons,
        enter_eq_append place notDot notParent]
      exact isFile
  | case5 =>
      cases found
  | case6 place name rest notDot notParent next nothing below
      inductionHypothesis =>
      rw [List.foldl_cons, enter_eq_append place notDot notParent]
      exact inductionHypothesis found
  | case7 =>
      cases found

/-- A path that leads to a file names the place of the file. -/
theorem fileAt?_place
    {tree : FileTree}
    {path : String}
    {content : FileContent}
    (found : tree.entry path = .file content) :
    tree.fileAt? (place path) = some content := by
  unfold entry at found
  split at found
  · cases found
  · exact fileAt?_of_follow found

end FileTree

end CatalogSite
