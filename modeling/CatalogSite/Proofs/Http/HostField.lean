import CatalogSite.Proofs.Site.Failing
import CatalogSite.Proofs.Url.WebAddress
import Mathlib.Data.List.DropRight

namespace CatalogSite

/-!
# What the host field of a request decides

A target that is a path is completed by the host field to the text of an address, and
this text is read as a whole. Of the field only the part up to the first character that
ends an authority is read as one. Whatever stands behind it is read in front of the
target: a slash adds to the path, and a question mark or a number sign keeps the target
out of the path. Fields that agree in this part lead to the same resource.
-/

namespace Http

variable {host path text : String} {url : Url}

/-- The characters of a host field that count, behind leading slashes. -/
def hostChars
    (host : String) :
    List Char :=
  (host.toList.filter Url.isKept).dropWhile
    Url.SchemeKind.web.isSlash

/-- The part of a host field that is read as an authority. -/
def namedAuthority
    (host : String) :
    List Char :=
  (hostChars host).takeWhile Url.inAuthority

/-- The part of a host field that is read in front of the target. -/
def behindAuthority
    (host : String) :
    List Char :=
  (hostChars host).dropWhile Url.inAuthority

/-- The text of a path with its query holds no control characters and no blanks. -/
theorem isVisible_of_pathAndQuery?
    {chars path : List Char}
    {query : Option (List Char)}
    (reads : pathAndQuery? chars = some (path, query)) :
    path = chars.takeWhile (fun c => c != '?' && c != '#') ∧
      ∀ c ∈ path ++ markedQuery query, 0x20 < c.toNat := by
  unfold pathAndQuery? at reads
  dsimp only at reads
  split at reads
  · cases reads
  · rename_i allowed
    rw [Bool.not_eq_true', Bool.not_eq_false, List.all_eq_true]
      at allowed
    have pathVisible
        {c : Char}
        (isPath : isPathChar c = true) :
        0x20 < c.toNat := by
      simp only [isPathChar, Bool.and_eq_true, decide_eq_true_eq]
        at isPath
      omega
    have queryVisible
        {c : Char}
        (isQuery : isQueryChar c = true) :
        0x20 < c.toNat := by
      simp only [isQueryChar, Bool.and_eq_true, decide_eq_true_eq]
        at isQuery
      omega
    split at reads
    · split at reads
      · rename_i queryAllowed
        cases reads
        rw [List.all_eq_true] at queryAllowed
        refine ⟨rfl, ?_⟩
        intro c member
        rcases List.mem_append.mp member with inPath | inQuery
        · exact pathVisible (allowed c inPath)
        · rcases List.mem_cons.mp inQuery with rfl | inRest
          · decide
          · exact queryVisible (queryAllowed c inRest)
      · cases reads
    · cases reads
      refine ⟨rfl, ?_⟩
      intro c member
      rw [markedQuery, List.append_nil] at member
      exact pathVisible (allowed c member)

/-- A target that is a path is not empty, and holds no control characters and no blanks. -/
theorem isVisible_of_origin
    (origin : RequestTarget.ofText? text = some (.origin path)) :
    path.toList ≠ [] ∧ ∀ c ∈ path.toList, 0x20 < c.toNat := by
  unfold RequestTarget.ofText? at origin
  split at origin
  · cases origin
  · split at origin
    · cases origin
      simp
    · rename_i rest isPath
      simp only [Option.bind_eq_bind, Option.bind_eq_some_iff]
        at origin
      obtain ⟨⟨front, query⟩, reads, isOrigin⟩ := origin
      cases isOrigin
      obtain ⟨isFront, visible⟩ := isVisible_of_pathAndQuery? reads
      rw [String.toList_ofList]
      refine ⟨?_, visible⟩
      rw [isFront]
      simp
    · split at origin
      · unfold RequestTarget.ofAddress? at origin
        dsimp only at origin
        split at origin
        · cases origin
        · simp only [Option.bind_eq_bind, Option.bind_eq_some_iff]
            at origin
          obtain ⟨parts, -, isOrigin⟩ := origin
          cases isOrigin
      · split at origin
        · cases origin
        · cases origin

/-- Behind the slashes of an address stand its host and its path. -/
theorem dropWhile_counted_address
    (nonempty : path.toList ≠ [])
    (visible : ∀ c ∈ path.toList, 0x20 < c.toNat)
    (someHost : hostChars host ≠ []) :
    (Url.counted ("//" ++ host ++ path).toList).dropWhile
        Url.SchemeKind.web.isSlash =
      hostChars host ++ path.toList := by
  have lastVisible :
      ∀ c, ("//" ++ host ++ path).toList.getLast? = some c →
        0x20 < c.toNat := by
    intro c isLast
    rw [String.toList_append,
      List.getLast?_append_of_ne_nil _ nonempty] at isLast
    exact visible c (List.mem_of_getLast? isLast)
  have isCounted :
      Url.counted ("//" ++ host ++ path).toList =
        "//".toList ++ (host.toList.filter Url.isKept ++ path.toList) := by
    rw [Url.counted_eq_filter lastVisible, String.toList_append,
      String.toList_append, List.filter_append, List.filter_append,
      Url.filter_isKept_of_visible visible, List.append_assoc]
    rfl
  have slashes :
      ∀ c ∈ "//".toList, Url.SchemeKind.web.isSlash c = true :=
    List.all_eq_true.mp (by decide)
  rw [isCounted, List.dropWhile_append_of_pos slashes,
    List.dropWhile_append]
  exact if_neg (mt List.isEmpty_iff.mp someHost)

/-- The host is read in front of the path, without its authority. -/
theorem resource_of_parse
    (nonempty : path.toList ≠ [])
    (visible : ∀ c ∈ path.toList, 0x20 < c.toNat)
    (named : namedAuthority host ≠ [])
    (parses : Url.parse ("http://" ++ host ++ path) = .ok url) :
    (url.path, url.query) =
      Url.resourceOf
        ((behindAuthority host ++ path.toList).dropWhile
          Url.inAuthority) := by
  have someHost : hostChars host ≠ [] := by
    intro isEmpty
    rw [namedAuthority, isEmpty] at named
    exact named rfl
  have behindHost :
      (hostChars host ++ path.toList).dropWhile Url.inAuthority =
        (behindAuthority host ++ path.toList).dropWhile
          Url.inAuthority := by
    rw [List.dropWhile_append, List.dropWhile_append, behindAuthority,
      List.dropWhile_idempotent]
  rw [Url.http_append, Url.parse_http,
    dropWhile_counted_address nonempty visible someHost] at parses
  rw [Url.resource_of_parseAfterSlashes parses, behindHost]

/-- The host field is read in front of the target, without its authority. -/
theorem resource_of_address
    (origin : RequestTarget.ofText? text = some (.origin path))
    (named : namedAuthority host ≠ [])
    (parses :
      Url.parse ((RequestTarget.origin path).address host) = .ok url) :
    (url.path, url.query) =
      Url.resourceOf
        ((behindAuthority host ++ path.toList).dropWhile
          Url.inAuthority) := by
  obtain ⟨nonempty, visible⟩ := isVisible_of_origin origin
  exact resource_of_parse nonempty visible named parses

end Http

/-- An authority that is admitted is admitted with every text behind it. -/
theorem Config.exists_admitUrl_behind
    {config : Config}
    {authority : String}
    {base : Url}
    (unended : ∀ c ∈ authority.toList, Url.inAuthority c = true)
    (admitted :
      config.admitUrl ("http://" ++ authority ++ "/") = .ok base)
    (more : String) :
    ∃ url,
      config.admitUrl ("http://" ++ authority ++ "/" ++ more) =
          .ok url ∧
        url.authority = base.authority ∧
        url.path = (Url.resourceOf ('/' :: Url.counted more.toList)).1 := by
  obtain ⟨parses, allowed⟩ := admitUrl_eq_ok_iff.mp admitted
  obtain ⟨read, isRead, leadsTo⟩ :=
    Url.exists_authority_of_parse unended parses
  let url :=
    Url.urlBehind "http".toList ('/' :: Url.counted more.toList) read
  have sameAuthority : url.authority = base.authority :=
    isRead.symm
  have sameHost : url.hostText? = base.hostText? := by
    rw [Url.hostText?, Url.hostText?, Url.host?, Url.host?, sameAuthority]
  refine ⟨url, admitUrl_eq_ok_iff.mpr ⟨leadsTo more, ?_⟩, sameAuthority, rfl⟩
  rw [sameHost]
  exact allowed

namespace Site

open CatalogSite.Http

/--
The authority that a host field names does not choose the resource.

Two fields that are admitted with a target that is a path lead to the same path, the same
query and the same endpoint, page or file, or to none, whatever hosts, users and ports
they name. All that is asked is that they name some authority and agree in what stands
behind it, as any two fields do that hold no `/`, `\`, `?` or `#` at all.
-/
theorem target?_eq_of_sameBehind
    (site : Site)
    (tree : FileTree)
    {text path first second : String}
    {firstUrl secondUrl : Url}
    (origin : RequestTarget.ofText? text = some (.origin path))
    (firstAdmitted :
      site.config.admitUrl ((RequestTarget.origin path).address first) =
        .ok firstUrl)
    (secondAdmitted :
      site.config.admitUrl ((RequestTarget.origin path).address second) =
        .ok secondUrl)
    (firstNamed : namedAuthority first ≠ [])
    (secondNamed : namedAuthority second ≠ [])
    (sameBehind : behindAuthority first = behindAuthority second) :
    firstUrl.path = secondUrl.path ∧
      firstUrl.query = secondUrl.query ∧
      site.target? tree firstUrl.routePath =
        site.target? tree secondUrl.routePath := by
  have sameResource :
      (firstUrl.path, firstUrl.query) =
        (secondUrl.path, secondUrl.query) := by
    rw [resource_of_address origin firstNamed
        (Config.admitUrl_eq_ok_iff.mp firstAdmitted).1,
      resource_of_address origin secondNamed
        (Config.admitUrl_eq_ok_iff.mp secondAdmitted).1,
      sameBehind]
  obtain ⟨samePath, sameQuery⟩ := Prod.mk.inj sameResource
  refine ⟨samePath, sameQuery, ?_⟩
  rw [Url.routePath, Url.routePath, samePath]

/-- A site with two endpoints, which answers for one host alone. -/
def guardedSite : Site :=
  { fileSite with
    config := { Config.defaults with accessHosts := ["[::1]"] }
    endpoints :=
      { entries := [
          ("/one", ⟨⟨"searchinfo", "text/one"⟩, false⟩),
          ("/two", ⟨⟨"searchinfo", "text/two"⟩, false⟩)] } }

/-- Users, ports and slashes in front make no difference. -/
theorem target?_eq_of_sameBehind_port :
    let target : RequestTarget := .origin "/one?lang=en"
    ∃ firstUrl secondUrl,
      RequestTarget.ofText? "/one?lang=en" = some target ∧
        guardedSite.config.admitUrl (target.address "[::1]") =
          .ok firstUrl ∧
        guardedSite.config.admitUrl
            (target.address "//me@[::1]:8080") =
          .ok secondUrl ∧
        namedAuthority "[::1]" ≠ [] ∧
        namedAuthority "//me@[::1]:8080" ≠ [] ∧
        behindAuthority "[::1]" = behindAuthority "//me@[::1]:8080" ∧
        guardedSite.target? .empty firstUrl.routePath =
          guardedSite.target? .empty secondUrl.routePath := by
  intro target
  let firstUrl : Url :=
    { scheme := "http".toList
      authority := some (.ofHost (.ipv6 [0, 0, 0, 0, 0, 0, 0, 1]))
      path := .segments ["one".toList]
      query := some "lang=en".toList
      fragment := none }
  let secondUrl : Url :=
    { firstUrl with
      authority :=
        some
          { username := "me".toList
            password := []
            host := .ipv6 [0, 0, 0, 0, 0, 0, 0, 1]
            port := some 8080 } }
  have origin : RequestTarget.ofText? "/one?lang=en" = some target := by
    decide
  have firstAdmitted :
      guardedSite.config.admitUrl (target.address "[::1]") =
        .ok firstUrl := by
    apply eq_ok_of_toOption_eq_some
    decide
  have secondAdmitted :
      guardedSite.config.admitUrl (target.address "//me@[::1]:8080") =
        .ok secondUrl := by
    apply eq_ok_of_toOption_eq_some
    decide
  have firstNamed : namedAuthority "[::1]" ≠ [] := by
    decide
  have secondNamed : namedAuthority "//me@[::1]:8080" ≠ [] := by
    decide
  have sameBehind :
      behindAuthority "[::1]" = behindAuthority "//me@[::1]:8080" := by
    decide
  obtain ⟨-, -, sameTarget⟩ :=
    target?_eq_of_sameBehind guardedSite .empty origin firstAdmitted
      secondAdmitted firstNamed secondNamed sameBehind
  exact
    ⟨firstUrl, secondUrl, origin, firstAdmitted, secondAdmitted,
      firstNamed, secondNamed, sameBehind, sameTarget⟩

/-- A path and a question mark in the host field lead to another endpoint. -/
theorem exists_target?_chosen_by_host :
    let target : RequestTarget := .origin "/one"
    ∃ firstUrl secondUrl,
      RequestTarget.ofText? "/one" = some target ∧
        guardedSite.config.admitUrl (target.address "[::1]") =
          .ok firstUrl ∧
        guardedSite.config.admitUrl (target.address "[::1]/two?") =
          .ok secondUrl ∧
        firstUrl.routePath = "one" ∧
        secondUrl.routePath = "two" ∧
        guardedSite.target? .empty firstUrl.routePath ≠
          guardedSite.target? .empty secondUrl.routePath := by
  intro target
  let firstUrl : Url :=
    { scheme := "http".toList
      authority := some (.ofHost (.ipv6 [0, 0, 0, 0, 0, 0, 0, 1]))
      path := .segments ["one".toList]
      query := none
      fragment := none }
  let secondUrl : Url :=
    { firstUrl with
      path := .segments ["two".toList]
      query := some "/one".toList }
  refine ⟨firstUrl, secondUrl, ?_, ?_, ?_, ?_, ?_, ?_⟩
  · decide
  · apply eq_ok_of_toOption_eq_some
    decide
  · apply eq_ok_of_toOption_eq_some
    decide
  · decide
  · decide
  · decide

end Site

end CatalogSite
