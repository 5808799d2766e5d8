import CatalogSite.Proofs.Site.StaticFiles
import CatalogSite.Proofs.Text.Pieces

namespace CatalogSite

/-!
# Routes by segments

The path of a route is the root, or a row of segments behind slashes. A path lies below a
declared one exactly when the segments of the declared path come first among its own. A
table therefore leads to the first route declared for the path itself, or else to the
first lenient route whose segments the path begins with; and of the two tables of a site
the endpoints are asked first.
-/

/-- The root, or a text that begins with a slash and does not end with one. -/
def IsRoutePath
    (path : String) : Prop :=
  path = "/" ∨
    path.toList.head? = some '/' ∧ path.toList.getLast? ≠ some '/'

instance
    (path : String) :
    Decidable (IsRoutePath path) :=
  inferInstanceAs (Decidable (_ ∨ _ ∧ _))

/-- The segments of a route path, of which the root has none. -/
def routeSegments
    (path : String) :
    List (List Char) :=
  if path = "/" then [] else (path.toList.drop 1).splitOnP (· == '/')

/-- A path other than the root has something behind its slash, and no slash at its end. -/
theorem IsRoutePath.cases
    {path : String}
    (isPath : IsRoutePath path) :
    path = "/" ∨
      ∃ below,
        path.toList = '/' :: below ∧ path.toList.getLast? ≠ some '/' ∧
          routeSegments path = below.splitOnP (· == '/') := by
  rcases isPath with isRoot | ⟨isFirst, notLast⟩
  · exact .inl isRoot
  · right
    obtain ⟨below, shape⟩ := List.head?_eq_some_iff.mp isFirst
    have notRoot : path ≠ "/" := by
      rintro rfl
      exact notLast rfl
    exact
      ⟨below, shape, notLast, by rw [routeSegments, if_neg notRoot, shape]; rfl⟩

/-- What a path has behind a declared one is read as more segments. -/
theorem liesBelow_iff_exists
    {declared path : List Char}
    (notLast : declared.getLast? ≠ some '/') :
    liesBelow declared path = true ↔
      path = declared ∨ ∃ rest, path = declared ++ '/' :: rest := by
  unfold liesBelow
  cases found : Text.dropPrefix? declared path with
  | none =>
      constructor
      · intro below
        cases below
      · intro shape
        have isPrefix : ∃ rest, path = declared ++ rest := by
          rcases shape with same | ⟨rest, longer⟩
          · exact ⟨[], by rw [same, List.append_nil]⟩
          · exact ⟨_, longer⟩
        obtain ⟨rest, longer⟩ := isPrefix
        rw [Text.dropPrefix?_eq_some_iff.mpr longer] at found
        cases found
  | some rest =>
      have shape := Text.dropPrefix?_eq_some_iff.mp found
      subst shape
      simp [notLast, Text.startsWith_iff, List.isEmpty_iff]

/-- Every path lies below the root. -/
theorem liesBelow_root
    {path : String}
    (isPath : IsRoutePath path) :
    liesBelow "/".toList path.toList = true := by
  rcases isPath.cases with rfl | ⟨below, shape, -, -⟩
  · decide
  · rw [shape]
    simp [liesBelow, Text.dropPrefix?]

/-- A path lies below a declared one when it begins with the declared segments. -/
theorem liesBelow_iff_isPrefix
    {declared path : String}
    (isDeclared : IsRoutePath declared)
    (isPath : IsRoutePath path) :
    liesBelow declared.toList path.toList = true ↔
      routeSegments declared <+: routeSegments path := by
  rcases isDeclared.cases with
    rfl | ⟨segments, declaredShape, notLast, areSegments⟩
  · exact
      iff_of_true (liesBelow_root isPath) (List.nil_prefix)
  rw [liesBelow_iff_exists notLast, declaredShape, areSegments]
  rcases isPath.cases with rfl | ⟨below, pathShape, -, areBelow⟩
  · have someSegment : segments ≠ [] := by
      rintro rfl
      rw [declaredShape] at notLast
      exact notLast rfl
    refine iff_of_false ?_ ?_
    · rintro (same | ⟨rest, longer⟩)
      · exact someSegment (List.cons.inj same).2.symm
      · have lengths := congrArg List.length longer
        simp at lengths
    · intro isPrefix
      exact
        List.splitOnP_ne_nil (· == '/') segments
          (List.prefix_nil.mp isPrefix)
  · rw [pathShape, areBelow, Text.splitOnP_isPrefix_iff]
    simp

/-! ## The route that a table leads to -/

/-- An entry meets a condition that no entry before it meets. -/
structure IsFirst
    {α : Type}
    (meets : α → Prop)
    (entries : List α)
    (entry : α) : Prop where
  meetsIt : meets entry
  noneBefore :
    ∃ before after,
      entries = before ++ entry :: after ∧
        ∀ earlier ∈ before, ¬ meets earlier

theorem find?_eq_some_iff_isFirst
    {α : Type}
    {meets : α → Prop}
    {test : α → Bool}
    {entries : List α}
    {entry : α}
    (decides : ∀ other ∈ entries, test other = true ↔ meets other) :
    entries.find? test = some entry ↔ IsFirst meets entries entry := by
  rw [List.find?_eq_some_iff_append]
  constructor
  · rintro ⟨passes, before, after, rfl, noneBefore⟩
    have inEntries
        {other : α}
        (member : other ∈ before) :
        other ∈ before ++ entry :: after :=
      List.mem_append_left _ member
    refine
      { meetsIt := (decides entry (by simp)).mp passes
        noneBefore := ⟨before, after, rfl, ?_⟩ }
    intro earlier member meetsIt
    have fails := noneBefore earlier member
    rw [(decides earlier (inEntries member)).mpr meetsIt] at fails
    cases fails
  · rintro ⟨meetsIt, before, after, rfl, noneBefore⟩
    refine
      ⟨(decides entry (by simp)).mpr meetsIt, before, after, rfl, ?_⟩
    intro earlier member
    rw [Bool.not_eq_true', Bool.eq_false_iff]
    intro passes
    exact
      noneBefore earlier member
        ((decides earlier (List.mem_append_left _ member)).mp passes)

namespace RouteTable

variable {α : Type} {table : RouteTable α} {path : String}
  {route : Route α}

/-- All declared paths of a table are paths of routes. -/
def DeclaresPaths
    (table : RouteTable α) : Prop :=
  ∀ entry ∈ table.entries, IsRoutePath entry.1

instance
    (table : RouteTable α) :
    Decidable table.DeclaresPaths :=
  inferInstanceAs (Decidable (∀ entry ∈ table.entries, _))

/-- A table declares a route for exactly a path. -/
def Declares
    (table : RouteTable α)
    (path : String) : Prop :=
  ∃ entry ∈ table.entries, entry.1 = path

/-- An entry is lenient, and a path begins with its segments. -/
def Covers
    (path : String)
    (entry : String × Route α) : Prop :=
  entry.2.lenient = true ∧ routeSegments entry.1 <+: routeSegments path

/--
The route to which a path leads.

The first route declared for the path itself comes before every other one; only without
any, the first lenient route counts whose segments the path begins with.
-/
inductive LeadsTo
    (table : RouteTable α)
    (path : String) :
    Route α → Prop where
  | itself
      {route : Route α} :
      IsFirst (fun entry => entry.1 = path) table.entries (path, route) →
      LeadsTo table path route
  | below
      {declared : String}
      {route : Route α} :
      ¬ table.Declares path →
      IsFirst (Covers path) table.entries (declared, route) →
      LeadsTo table path route

/-- The route declared for a path itself is the first one declared so. -/
theorem exactRoute?_eq_some_iff :
    table.exactRoute? path = some route ↔
      IsFirst (fun entry => entry.1 = path) table.entries
        (path, route) := by
  have decides :
      ∀ entry ∈ table.entries,
        decide (entry.1 = path) = true ↔ entry.1 = path :=
    fun _ _ => decide_eq_true_iff
  rw [exactRoute?, Option.map_eq_some_iff]
  constructor
  · rintro ⟨⟨declared, found⟩, isFound, rfl⟩
    have isFirst := (find?_eq_some_iff_isFirst decides).mp isFound
    obtain rfl : declared = path := isFirst.meetsIt
    exact isFirst
  · intro isFirst
    exact ⟨_, (find?_eq_some_iff_isFirst decides).mpr isFirst, rfl⟩

theorem exactRoute?_eq_none_iff :
    table.exactRoute? path = none ↔ ¬ table.Declares path := by
  rw [exactRoute?, Option.map_eq_none_iff, List.find?_eq_none, Declares]
  simp only [decide_eq_true_eq, not_exists, not_and]

section Lenient

variable
  (declaresPaths : table.DeclaresPaths)
  (isPath : IsRoutePath path)

include declaresPaths isPath

theorem covers_iff :
    ∀ entry ∈ table.entries,
      (entry.2.lenient && liesBelow entry.1.toList path.toList) = true ↔
        Covers path entry := by
  intro entry member
  rw [Bool.and_eq_true,
    liesBelow_iff_isPrefix (declaresPaths entry member) isPath, Covers]

/-- The lenient route of a path is the first one whose segments the path begins with. -/
theorem lenientRoute?_eq_some_iff :
    table.lenientRoute? path = some route ↔
      ∃ declared,
        IsFirst (Covers path) table.entries (declared, route) := by
  have decides := covers_iff declaresPaths isPath
  rw [lenientRoute?, Option.map_eq_some_iff]
  constructor
  · rintro ⟨⟨declared, found⟩, isFound, rfl⟩
    exact ⟨declared, (find?_eq_some_iff_isFirst decides).mp isFound⟩
  · rintro ⟨declared, isFirst⟩
    exact ⟨_, (find?_eq_some_iff_isFirst decides).mpr isFirst, rfl⟩

/-- Looking a path up finds the route to which it leads. -/
theorem find?_eq_some_iff_leadsTo :
    table.find? path = some route ↔ table.LeadsTo path route := by
  unfold find?
  constructor
  · intro found
    split at found
    · rename_i exact
      cases found
      exact .itself (exactRoute?_eq_some_iff.mp exact)
    · rename_i noneExact
      obtain ⟨declared, isFirst⟩ :=
        (lenientRoute?_eq_some_iff declaresPaths isPath).mp found
      exact .below (exactRoute?_eq_none_iff.mp noneExact) isFirst
  · rintro (isFirst | ⟨notDeclared, isFirst⟩)
    · rw [exactRoute?_eq_some_iff.mpr isFirst]
    · rw [exactRoute?_eq_none_iff.mpr notDeclared]
      exact
        (lenientRoute?_eq_some_iff declaresPaths isPath).mpr
          ⟨_, isFirst⟩

theorem find?_eq_none_iff_forall_not_leadsTo :
    table.find? path = none ↔ ∀ route, ¬ table.LeadsTo path route := by
  rw [Option.eq_none_iff_forall_ne_some]
  exact
    forall_congr' fun route =>
      not_congr (find?_eq_some_iff_leadsTo declaresPaths isPath)

/-- Looking a path up finds nothing where no route is declared for it or covers it. -/
theorem find?_eq_none_iff :
    table.find? path = none ↔
      ¬ table.Declares path ∧
        ∀ entry ∈ table.entries, ¬ Covers path entry := by
  have noneLenient :
      table.lenientRoute? path = none ↔
        ∀ entry ∈ table.entries, ¬ Covers path entry := by
    rw [lenientRoute?, Option.map_eq_none_iff, List.find?_eq_none]
    exact
      forall₂_congr fun entry member =>
        not_congr (covers_iff declaresPaths isPath entry member)
  rw [← exactRoute?_eq_none_iff, ← noneLenient, find?]
  cases table.exactRoute? path <;> simp

end Lenient

end RouteTable

namespace Site

/-- The target of a path, by what the tables of a site find for it. -/
theorem target?_eq_some_iff
    (site : Site)
    (tree : FileTree)
    (path : String) :
    (∀ route,
      site.target? tree path = some (.endpoint route) ↔
        site.endpoints.find? ("/" ++ path) = some route) ∧
    (∀ route,
      site.target? tree path = some (.page route) ↔
        site.endpoints.find? ("/" ++ path) = none ∧
          site.pages.find? ("/" ++ path) = some route) ∧
    (∀ full,
      site.target? tree path = some (.file full) ↔
        site.endpoints.find? ("/" ++ path) = none ∧
          site.pages.find? ("/" ++ path) = none ∧
          tree.servedFile? site.config.staticDir path = some full) := by
  unfold target?
  cases site.endpoints.find? ("/" ++ path) with
  | some endpoint =>
      simp
  | none =>
      cases site.pages.find? ("/" ++ path) with
      | some page =>
          simp
      | none =>
          simp

/--
Matching a route is matching segments.

In every table whose declared paths are route paths, a route path leads to the first
route declared for it, or else to the first lenient one with segments that it begins
with, and to none exactly when there is neither. A site asks its endpoints first, so that
even a lenient endpoint comes before a page declared for the path itself; then its pages,
and then its files.
-/
theorem target?_by_segments :
    (∀ (α : Type) (table : RouteTable α) (path : String),
      table.DeclaresPaths → IsRoutePath path →
        (∀ route,
          table.find? path = some route ↔ table.LeadsTo path route) ∧
        (table.find? path = none ↔
          ¬ table.Declares path ∧
            ∀ entry ∈ table.entries, ¬ RouteTable.Covers path entry)) ∧
    (∀ (site : Site) (tree : FileTree) (path : String),
      site.endpoints.DeclaresPaths → site.pages.DeclaresPaths →
        IsRoutePath ("/" ++ path) →
          (∀ route,
            site.target? tree path = some (.endpoint route) ↔
              site.endpoints.LeadsTo ("/" ++ path) route) ∧
          (∀ route,
            site.target? tree path = some (.page route) ↔
              (∀ other, ¬ site.endpoints.LeadsTo ("/" ++ path) other) ∧
                site.pages.LeadsTo ("/" ++ path) route) ∧
          (∀ full,
            site.target? tree path = some (.file full) ↔
              (∀ other, ¬ site.endpoints.LeadsTo ("/" ++ path) other) ∧
                (∀ other, ¬ site.pages.LeadsTo ("/" ++ path) other) ∧
                tree.servedFile? site.config.staticDir path =
                  some full)) := by
  constructor
  · intro α table path declaresPaths isPath
    exact
      ⟨fun _ => RouteTable.find?_eq_some_iff_leadsTo declaresPaths isPath,
        RouteTable.find?_eq_none_iff declaresPaths isPath⟩
  · intro site tree path endpointPaths pagePaths isPath
    have noEndpoint :=
      RouteTable.find?_eq_none_iff_forall_not_leadsTo endpointPaths isPath
    have noPage :=
      RouteTable.find?_eq_none_iff_forall_not_leadsTo pagePaths isPath
    have found := site.target?_eq_some_iff tree path
    refine ⟨fun route => ?_, fun route => ?_, fun full => ?_⟩
    · rw [found.1,
        RouteTable.find?_eq_some_iff_leadsTo endpointPaths isPath]
    · rw [found.2.1, noEndpoint,
        RouteTable.find?_eq_some_iff_leadsTo pagePaths isPath]
    · rw [found.2.2, noEndpoint, noPage]

/-- A site with a lenient endpoint, and a page declared for a path below it. -/
def newsSite : Site :=
  { fileSite with
    endpoints :=
      { entries := [
          ("/news", ⟨⟨"searchinfo", "text/news"⟩, true⟩)] }
    pages :=
      { entries := [
          ("/", ⟨.bare "home", true⟩),
          ("/news/1", ⟨.bare "article", false⟩)] } }

/-- A lenient endpoint comes before a page declared for the path itself. -/
theorem target?_by_segments_news :
    newsSite.endpoints.DeclaresPaths ∧ newsSite.pages.DeclaresPaths ∧
      IsRoutePath ("/" ++ "news/1") ∧
      IsRoutePath ("/" ++ "newsletter//x") ∧
      newsSite.pages.LeadsTo ("/" ++ "news/1")
        ⟨.bare "article", false⟩ ∧
      newsSite.target? .empty "news/1" =
        some (.endpoint ⟨⟨"searchinfo", "text/news"⟩, true⟩) ∧
      ¬ newsSite.endpoints.LeadsTo ("/" ++ "newsletter//x")
        ⟨⟨"searchinfo", "text/news"⟩, true⟩ ∧
      newsSite.target? .empty "newsletter//x" =
        some (.page ⟨.bare "home", true⟩) := by
  have endpointPaths : newsSite.endpoints.DeclaresPaths := by
    decide
  have pagePaths : newsSite.pages.DeclaresPaths := by
    decide
  have isArticle : IsRoutePath ("/" ++ "news/1") := by
    decide
  have isLetter : IsRoutePath ("/" ++ "newsletter//x") := by
    decide
  have isFirst :
      IsFirst (RouteTable.Covers ("/" ++ "news/1"))
        newsSite.endpoints.entries
        ("/news", ⟨⟨"searchinfo", "text/news"⟩, true⟩) :=
    { meetsIt := ⟨rfl, by decide⟩
      noneBefore := ⟨[], [], rfl, List.forall_mem_nil _⟩ }
  have notDeclared :
      ¬ newsSite.endpoints.Declares ("/" ++ "news/1") := by
    simp [RouteTable.Declares, newsSite]
  obtain ⟨tables, targets⟩ := target?_by_segments
  obtain ⟨pageFound, -⟩ := tables Page newsSite.pages _ pagePaths isArticle
  obtain ⟨endpointFound, -⟩ :=
    tables Endpoint newsSite.endpoints _ endpointPaths isLetter
  obtain ⟨isEndpoint, -, -⟩ :=
    targets newsSite .empty _ endpointPaths pagePaths isArticle
  have noEndpoint :
      newsSite.endpoints.find? ("/" ++ "newsletter//x") = none := by
    decide
  refine
    ⟨endpointPaths, pagePaths, isArticle, isLetter,
      (pageFound _).mp (by decide),
      (isEndpoint _).mpr (.below notDeclared isFirst), ?_, by decide⟩
  intro leads
  have found := (endpointFound _).mpr leads
  rw [noEndpoint] at found
  cases found

end Site

end CatalogSite
