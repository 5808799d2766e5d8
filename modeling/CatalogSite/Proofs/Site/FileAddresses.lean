import CatalogSite.Proofs.Http.HostField
import CatalogSite.Proofs.Url.WrittenPath

namespace CatalogSite

/-!
# Which file an address delivers

The path of a URL is looked up as it is written. The address of a stored file therefore
delivers this file when its path can be written without encoding anything. Otherwise the
address delivers the file that is stored under the encoded names, and when there is none,
there is nothing at the address.
-/

namespace Path

variable {path : String}

instance : DecidablePred IsOrdinary :=
  fun name =>
    inferInstanceAs
      (Decidable
        (name ≠ "" ∧ name ≠ "." ∧ name ≠ ".." ∧ '/' ∉ name.toList))

/-- A path along ordinary names has a slash at neither of its ends. -/
theorem bare_of_isOrdinary
    (ordinary : ∀ name ∈ names path, IsOrdinary name) :
    Text.Bare (· == '/') path.toList := by
  apply Text.bare_of_splitOnP
  rintro piece member rfl
  exact (ordinary "" (List.mem_map_of_mem member)).1 rfl

theorem isAbsolute_of_isOrdinary
    (ordinary : ∀ name ∈ names path, IsOrdinary name) :
    isAbsolute path = false := by
  rw [Bool.eq_false_iff]
  intro absolute
  obtain ⟨rest, shape⟩ := Text.startsWith_iff.mp absolute
  have notSlash := (bare_of_isOrdinary ordinary).head '/' (by simp [shape])
  cases notSlash

theorem component?_of_isOrdinary
    {name : String}
    (isFirst : Bool)
    (isName : IsOrdinary name) :
    component? isFirst name = some (.normal name) := by
  obtain ⟨nonempty, notDot, notParent, -⟩ := isName
  rw [component?, if_neg nonempty, if_neg notDot, if_neg notParent]

/-- The components of a path along ordinary names are these names. -/
theorem components_of_isOrdinary
    (ordinary : ∀ name ∈ names path, IsOrdinary name) :
    components path = (names path).map .normal := by
  have relative := isAbsolute_of_isOrdinary ordinary
  unfold components
  cases shape : names path with
  | nil =>
      rfl
  | cons first others =>
      rw [shape] at ordinary
      have firstComponent :=
        component?_of_isOrdinary true (ordinary first List.mem_cons_self)
      have otherComponents :
          others.filterMap (component? false) = others.map .normal := by
        rw [← List.filterMap_eq_map]
        apply List.filterMap_congr
        intro name member
        exact component?_of_isOrdinary false
          (ordinary name (.tail first member))
      simp [relative, firstComponent, otherComponents]

/-- A file may be looked up along ordinary names. -/
theorem isPlain_of_isOrdinary
    (ordinary : ∀ name ∈ names path, IsOrdinary name) :
    isPlain path = true := by
  have nonempty : path ≠ "" := by
    rintro rfl
    exact (ordinary "" (by decide)).1 rfl
  rw [isPlain, components_of_isOrdinary ordinary]
  simp [nonempty, Component.isNormal]

/-- A path whose special characters are encoded. -/
def written
    (encoded : Char → Bool)
    (path : String) :
    String :=
  String.ofList (Url.percentEncode encoded path.toList)

theorem written_eq_self
    {encoded : Char → Bool}
    (plain : ∀ c ∈ path.toList, encoded c = false) :
    written encoded path = path := by
  rw [written, Url.percentEncode_eq_self plain, String.ofList_toList]

/-- The names of an encoded path are the encoded names of the path. -/
theorem names_written
    {encoded : Char → Bool}
    (leavesSlashes : encoded '/' = false)
    (path : String) :
    names (written encoded path) = (names path).map (written encoded) := by
  rw [names, written, String.toList_ofList,
    Url.splitOnP_percentEncode_slash leavesSlashes, names, List.map_map,
    List.map_map]
  congr 1
  funext piece
  simp [written]

/-- Encoding an ordinary name gives an ordinary name. -/
theorem isOrdinary_written
    {encoded : Char → Bool}
    {name : String}
    (isName : IsOrdinary name) :
    IsOrdinary (written encoded name) := by
  obtain ⟨nonempty, notDot, notParent, slashless⟩ := isName
  have differs
      {other : String}
      (noPercent : '%' ∉ other.toList)
      (notOther : name ≠ other) :
      written encoded name ≠ other := by
    intro same
    have writes :
        Url.percentEncode encoded name.toList = other.toList := by
      rw [← same, written, String.toList_ofList]
    exact notOther
      (String.toList_inj.mp
        (Url.eq_of_percentEncode_eq writes noPercent))
  refine
    ⟨differs (by decide) nonempty, differs (by decide) notDot,
      differs (by decide) notParent, ?_⟩
  intro member
  rw [written, String.toList_ofList] at member
  rcases Url.mark_or_plain_of_mem_percentEncode member with
    mark | ⟨inName, -⟩
  · revert mark
    decide
  · exact slashless inName

end Path

namespace FileTree

theorem isFile_eq_isSome
    (tree : FileTree)
    (path : String) :
    tree.isFile path = (tree.content? path).isSome := by
  unfold isFile content?
  cases tree.entry path <;> rfl

/-- Along ordinary names, whatever file is there may be served. -/
theorem servedFile?_of_isOrdinary
    {path : String}
    (tree : FileTree)
    (directory : String)
    (ordinary : ∀ name ∈ Path.names path, Path.IsOrdinary name) :
    tree.servedFile? directory path =
      (tree.content? (Path.join directory path)).map
        fun _ => Path.join directory path := by
  simp only [servedFile?, Path.isPlain_of_isOrdinary ordinary,
    Bool.true_and, isFile_eq_isSome]
  cases tree.content? (Path.join directory path) <;> rfl

end FileTree

/-- A response delivers a stored file, or says that nothing is there. -/
inductive Response.Delivers
    (response : Response) :
    Option FileContent → Prop where
  | file
      {content : FileContent}
      (success : response.status.code = 200)
      (delivered : response.body = content) :
      response.Delivers (some content)
  | nothing
      (lost : response.status.code = 404) :
      response.Delivers none

namespace Site

variable {site : Site} {catalog : Catalog} {tree : FileTree}
  {request : ClientRequest} {url : Url} {path : String}
  {encoded : Char → Bool}

/-- Neither an endpoint nor a page is declared for a path. -/
structure LeavesToFiles
    (site : Site)
    (path : String) : Prop where
  noEndpoint : site.endpoints.find? ("/" ++ path) = none
  noPage : site.pages.find? ("/" ++ path) = none

theorem target?_of_leavesToFiles
    (tree : FileTree)
    (leaves : site.LeavesToFiles path)
    (ordinary : ∀ name ∈ Path.names path, Path.IsOrdinary name) :
    site.target? tree path =
      (tree.content? (Path.join site.config.staticDir path)).map
        fun _ => .file (Path.join site.config.staticDir path) := by
  simp only [target?, leaves.noEndpoint, leaves.noPage]
  rw [FileTree.servedFile?_of_isOrdinary tree _ ordinary, Option.map_map]
  rfl

/-- What is found at a path of ordinary names is what the answer delivers. -/
theorem delivers_of_routePath
    (catalog : Catalog)
    (tree : FileTree)
    (welcome :
      site.config.blocks request.address request.userAgent = false)
    (admitted : site.config.admitUrl request.url = .ok url)
    (isPath : url.routePath = path)
    (leaves : site.LeavesToFiles path)
    (ordinary : ∀ name ∈ Path.names path, Path.IsOrdinary name) :
    (site.answer catalog tree request).Delivers
      (tree.content? (Path.join site.config.staticDir path)) := by
  subst isPath
  have leads := target?_of_leavesToFiles tree leaves ordinary
  rw [answer, welcome, if_neg Bool.false_ne_true, respond, admitted]
  cases found :
      tree.content? (Path.join site.config.staticDir url.routePath) with
  | none =>
      rw [found] at leads
      simp only [bind, Except.bind, route_of_target?_eq_none leads]
      exact .nothing
        (congrArg Status.code (status_errorResponse site catalog _))
  | some content =>
      rw [found] at leads
      simp only [bind, Except.bind, route_of_target? leads,
        targetContent, found]
      exact .file rfl rfl

/-- A path is looked up without the slashes that surround it in the URL. -/
theorem routePath_of_padded
    {left right : List Char}
    (bare : Text.Bare (· == '/') path.toList)
    (inLeft : ∀ c ∈ left, (c == '/') = true)
    (inRight : ∀ c ∈ right, (c == '/') = true)
    (isPath : url.path.chars = left ++ path.toList ++ right) :
    url.routePath = path := by
  rw [Url.routePath, Text.trimChar, isPath,
    Text.dropEndWhile_dropWhile inLeft inRight bare,
    String.ofList_toList]

/-- A request asks for a path if its URL is admitted and has the path, encoded. -/
def AsksFor
    (site : Site)
    (request : ClientRequest)
    (encoded : Char → Bool)
    (path : String) : Prop :=
  ∃ url,
    site.config.admitUrl request.url = .ok url ∧
      url.path.chars =
        '/' :: Url.percentEncode encoded path.toList

/-- The path behind a host is what an address asks for, if it is written as it has to be. -/
theorem asksFor_of_address
    {host : String}
    (writes : Url.WritesPaths encoded)
    (ordinary : ∀ name ∈ Path.names path, Path.IsOrdinary name)
    (named : Http.namedAuthority host ≠ [])
    (whole : Http.behindAuthority host = [])
    (isAddress :
      request.url =
        "http://" ++ host ++ ("/" ++ Path.written encoded path))
    (admitted : site.config.admitUrl request.url = .ok url) :
    site.AsksFor request encoded path := by
  refine ⟨url, admitted, ?_⟩
  have parses := (Config.admitUrl_eq_ok_iff.mp admitted).1
  rw [isAddress] at parses
  have isPath :
      ("/" ++ Path.written encoded path).toList =
        '/' :: Url.percentEncode encoded path.toList := by
    simp [Path.written]
  have nonempty : ("/" ++ Path.written encoded path).toList ≠ [] := by
    simp
  have visible :
      ∀ c ∈ ("/" ++ Path.written encoded path).toList,
        0x20 < c.toNat := by
    rw [isPath]
    exact writes.visible path.toList
  have resource := Http.resource_of_parse nonempty visible named parses
  have noDots :
      ∀ name ∈ path.toList.splitOnP (· == '/'),
        name ≠ ".".toList ∧ name ≠ "..".toList := by
    intro name member
    obtain ⟨-, notDot, notParent, -⟩ :=
      ordinary (String.ofList name) (List.mem_map_of_mem member)
    constructor
    · rintro rfl
      exact notDot rfl
    · rintro rfl
      exact notParent rfl
  have firstSlash :
      ('/' :: Url.percentEncode encoded path.toList).dropWhile
          Url.inAuthority =
        '/' :: Url.percentEncode encoded path.toList := by
    rfl
  rw [isPath, whole, List.nil_append, firstSlash] at resource
  have samePath := congrArg (fun parts => parts.1.chars) resource
  exact samePath.trans (writes.resourceOf_eq noDots)

/--
The address of a stored file delivers what is stored under the encoded path.

This is the file itself when nothing of its path has to be encoded. For any other file,
with a blank in a name or with letters outside ASCII, it is another file or nothing: the
path of the URL is not decoded before it is looked up, though decoding would give the
bytes of the path back. The encoding may be any that leaves slashes alone.
-/
theorem answer_of_stored_file
    {content : FileContent}
    (catalog : Catalog)
    (leavesSlashes : encoded '/' = false)
    (ordinary : ∀ name ∈ Path.names path, Path.IsOrdinary name)
    (stored :
      tree.content? (Path.join site.config.staticDir path) =
        some content)
    (leaves : site.LeavesToFiles (Path.written encoded path))
    (welcome :
      site.config.blocks request.address request.userAgent = false)
    (asks : site.AsksFor request encoded path) :
    (site.answer catalog tree request).Delivers
        (tree.content?
          (Path.join site.config.staticDir
            (Path.written encoded path))) ∧
      ((∀ c ∈ path.toList, encoded c = false) →
        (site.answer catalog tree request).Delivers
          (some content)) := by
  obtain ⟨url, admitted, isPath⟩ := asks
  have writtenOrdinary :
      ∀ name ∈ Path.names (Path.written encoded path),
        Path.IsOrdinary name := by
    rw [Path.names_written leavesSlashes]
    intro name member
    obtain ⟨source, isSource, rfl⟩ := List.mem_map.mp member
    exact Path.isOrdinary_written (ordinary source isSource)
  have routed : url.routePath = Path.written encoded path := by
    apply routePath_of_padded
      (Path.bare_of_isOrdinary writtenOrdinary)
      (List.forall_mem_singleton.mpr (beq_self_eq_true '/'))
      (List.forall_mem_nil _)
    rw [isPath, Path.written, String.toList_ofList, List.append_nil]
    rfl
  have answered :=
    delivers_of_routePath catalog tree welcome admitted routed leaves
      writtenOrdinary
  refine ⟨answered, ?_⟩
  intro plain
  rw [Path.written_eq_self plain, stored] at answered
  exact answered

/-- A file whose path consists of letters, dots and slashes is delivered. -/
theorem answer_of_stored_file_plain :
    let tree : FileTree := ⟨[(["static", "css", "site.css"], .text "h1")]⟩
    let catalog := (GameStore.ofGames []).catalog
    let request : ClientRequest :=
      ⟨"", "", "http://[::1]/css/site.css", none⟩
    fileSite.AsksFor request Url.encodedInName "css/site.css" ∧
      (fileSite.answer catalog tree request).Delivers
        (some (.text "h1")) := by
  intro tree catalog request
  let url : Url :=
    { scheme := "http".toList
      authority := some (.ofHost (.ipv6 [0, 0, 0, 0, 0, 0, 0, 1]))
      path := .segments ["css".toList, "site.css".toList]
      query := none
      fragment := none }
  have ordinary :
      ∀ name ∈ Path.names "css/site.css", Path.IsOrdinary name := by
    decide
  have admitted : fileSite.config.admitUrl request.url = .ok url := by
    apply eq_ok_of_toOption_eq_some
    decide
  have asks : fileSite.AsksFor request Url.encodedInName "css/site.css" :=
    asksFor_of_address Url.writesPaths_encodedInName ordinary
      (show Http.namedAuthority "[::1]" ≠ [] by decide)
      (by decide) (by decide) admitted
  have stored :
      tree.content?
          (Path.join fileSite.config.staticDir "css/site.css") =
        some (.text "h1") := by
    decide
  have leaves :
      fileSite.LeavesToFiles
        (Path.written Url.encodedInName "css/site.css") :=
    ⟨by decide, by decide⟩
  have plain :
      ∀ c ∈ "css/site.css".toList, Url.encodedInName c = false := by
    have noneEncoded :
        "css/site.css".toList.any Url.encodedInName = false := by
      decide
    simpa only [List.any_eq_false, Bool.not_eq_true] using noneEncoded
  obtain ⟨-, whenPlain⟩ :=
    answer_of_stored_file catalog (by decide) ordinary stored leaves
      (by decide) asks
  exact ⟨asks, whenPlain plain⟩

/-- A file with a blank in its name is not found at the address of its path. -/
theorem exists_stored_file_not_found :
    let tree : FileTree := ⟨[(["static", "a b.txt"], .text "hello")]⟩
    let catalog := (GameStore.ofGames []).catalog
    let request : ClientRequest := ⟨"", "", "http://[::1]/a%20b.txt", none⟩
    (∀ name ∈ Path.names "a b.txt", Path.IsOrdinary name) ∧
      tree.content?
          (Path.join fileSite.config.staticDir "a b.txt") =
        some (.text "hello") ∧
      fileSite.LeavesToFiles
        (Path.written Url.encodedInName "a b.txt") ∧
      fileSite.config.blocks request.address request.userAgent =
        false ∧
      fileSite.AsksFor request Url.encodedInName "a b.txt" ∧
      (fileSite.answer catalog tree request).status.code = 404 := by
  intro tree catalog request
  let url : Url :=
    { scheme := "http".toList
      authority := some (.ofHost (.ipv6 [0, 0, 0, 0, 0, 0, 0, 1]))
      path := .segments ["a%20b.txt".toList]
      query := none
      fragment := none }
  have admitted : fileSite.config.admitUrl request.url = .ok url := by
    apply eq_ok_of_toOption_eq_some
    decide
  refine ⟨?_, ?_, ⟨?_, ?_⟩, ?_, ⟨url, admitted, ?_⟩, ?_⟩
  all_goals
    decide

end Site

end CatalogSite
