import CatalogSite.Proofs.Route.Segments
import CatalogSite.Proofs.Site.FileAddresses

namespace CatalogSite

/-!
# Slashes around a declared path

A path is looked up without the slashes at its ends, behind a single one. A declared path
is therefore reached through any number of slashes in front of it and behind it, whatever
query and fragment follow, and it never leads to a file: a table that declares a path has
a route for it, and the tables are asked before the files.
-/

/-- A text between two rows of slashes. -/
def padded
    (before after : Nat)
    (text : String) :
    String :=
  String.ofList
    (List.replicate before '/' ++ text.toList ++
      List.replicate after '/')

theorem isSlash_of_mem_replicate
    {count : Nat} :
    ∀ c ∈ List.replicate count '/', (c == '/') = true := by
  intro c member
  rw [List.eq_of_mem_replicate member]
  rfl

theorem RouteTable.exists_find?_of_declares
    {α : Type}
    {table : RouteTable α}
    {path : String}
    (declares : table.Declares path) :
    ∃ route, table.find? path = some route := by
  have notNone : table.exactRoute? path ≠ none :=
    fun isNone => exactRoute?_eq_none_iff.mp isNone declares
  obtain ⟨route, exact⟩ := Option.ne_none_iff_exists'.mp notNone
  exact ⟨route, by rw [find?, exact]⟩

namespace Url

/-! ## A plain path in the text of an address -/

/-- Whether a character is a letter or a digit of ASCII, a hyphen or an underscore. -/
def isPlain
    (c : Char) :
    Bool :=
  c.isAlphanum || c == '-' || c == '_'

theorem toNat_lt_of_isPlain
    {c : Char}
    (plain : isPlain c = true) :
    c.toNat < 128 := by
  unfold isPlain Char.isAlphanum Char.isAlpha Char.isUpper Char.isLower
    Char.isDigit at plain
  simp only [Bool.or_eq_true, Bool.and_eq_true, decide_eq_true_eq,
    beq_iff_eq, UInt32.le_iff_toNat_le] at plain
  rcases plain with
    (((⟨-, atMost⟩ | ⟨-, atMost⟩) | ⟨-, atMost⟩) | rfl) | rfl
  · exact Nat.lt_of_le_of_lt atMost (by decide)
  · exact Nat.lt_of_le_of_lt atMost (by decide)
  · exact Nat.lt_of_le_of_lt atMost (by decide)
  · decide
  · decide

/-- A plain character is written in a path as it is, and it is no dot. -/
theorem encodedInName_of_isPlain
    {c : Char}
    (plain : isPlain c = true) :
    encodedInName c = false ∧ c ≠ '.' := by
  -- A test on numbers: a quantifier over characters would run through all of them.
  have inAscii :
      ∀ n < 128,
        isPlain (Char.ofNat n) = true →
          encodedInName (Char.ofNat n) = false ∧ Char.ofNat n ≠ '.' := by
    decide
  have isChar : Char.ofNat c.toNat = c :=
    Char.ofNat_toNat c
  rw [← isChar] at plain ⊢
  exact inAscii c.toNat (toNat_lt_of_isPlain (isChar ▸ plain)) plain

/-- What begins with a question mark or a number sign adds nothing to a path. -/
theorem splitTail_counted_eq_nil
    {tail : List Char}
    (isTail :
      tail = [] ∨ tail.head? = some '?' ∨ tail.head? = some '#') :
    (splitTail (counted tail)).1 = [] := by
  have markCounts
      {mark : Char}
      (isFirst : tail.head? = some mark)
      (visible : 0x20 < mark.toNat) :
      ∃ rest, counted tail = mark :: rest := by
    obtain ⟨rest, rfl⟩ := List.head?_eq_some_iff.mp isFirst
    exact
      ⟨counted rest,
        counted_append_of_visible (List.forall_mem_singleton.mpr visible)
          rest⟩
  rcases isTail with rfl | isQuery | isFragment
  · rfl
  · obtain ⟨rest, shape⟩ := markCounts isQuery (by decide)
    rw [shape, splitTail_query]
  · obtain ⟨rest, shape⟩ := markCounts isFragment (by decide)
    rw [shape, splitTail_fragment]

/-- No name of a plain path stands for a directory. -/
theorem noDots_of_plain
    {text : List Char}
    (plain : ∀ c ∈ text, c = '/' ∨ isPlain c = true) :
    ∀ name ∈ text.splitOnP (· == '/'),
      name ≠ ".".toList ∧ name ≠ "..".toList := by
  have noDot
      {name : List Char}
      (isName : name ∈ text.splitOnP (· == '/')) :
      '.' ∉ name := by
    intro member
    have inPieces :
        '.' ∈ (text.splitOnP (· == '/')).flatMap ('/' :: ·) :=
      List.mem_flatMap.mpr ⟨name, isName, .tail '/' member⟩
    rw [Text.flatMap_splitOnP] at inPieces
    rcases List.mem_cons.mp inPieces with isSlash | inText
    · cases isSlash
    · rcases plain '.' inText with isSlash | isPlainDot
      · cases isSlash
      · exact (encodedInName_of_isPlain isPlainDot).2 rfl
  intro name isName
  constructor
  · rintro rfl
    exact noDot isName (by decide)
  · rintro rfl
    exact noDot isName (by decide)

/-- A tail without a path of its own leaves the path in front of it as it is. -/
theorem resourceOf_append_tail
    {path tail : List Char}
    (noQuery : '?' ∉ path)
    (noFragment : '#' ∉ path)
    (onlyTail : (splitTail tail).1 = []) :
    (resourceOf (path ++ tail)).1 = (resourceOf path).1 := by
  have alone : (splitTail path).1 = path := by
    have appended := splitTail_append noQuery noFragment []
    rw [List.append_nil] at appended
    rw [appended]
    exact List.append_nil path
  rw [resourceOf, resourceOf, splitTail_append noQuery noFragment,
    onlyTail, alone, List.append_nil]

/-- A plain path is read as it is written, whatever tail follows it. -/
theorem resourceOf_plain
    {text tail : List Char}
    (plain : ∀ c ∈ text, c = '/' ∨ isPlain c = true)
    (isTail :
      tail = [] ∨ tail.head? = some '?' ∨ tail.head? = some '#') :
    (resourceOf ('/' :: counted (text ++ tail))).1.chars =
      '/' :: text := by
  have unencoded : ∀ c ∈ text, encodedInName c = false := by
    intro c member
    rcases plain c member with rfl | isPlainChar
    · decide
    · exact (encodedInName_of_isPlain isPlainChar).1
  have written : percentEncode encodedInName text = text :=
    percentEncode_eq_self unencoded
  have isCounted :
      '/' :: counted (text ++ tail) = ('/' :: text) ++ counted tail := by
    have visible := writesPaths_encodedInName.visible text
    rw [written] at visible
    rw [counted_append_of_visible fun c member =>
      visible c (.tail '/' member)]
    rfl
  have absent
      {mark : Char}
      (notSlash : mark ≠ '/')
      (encoded : encodedInName mark = true) :
      mark ∉ '/' :: text := by
    rw [List.mem_cons, not_or]
    refine ⟨notSlash, fun member => ?_⟩
    rw [unencoded mark member] at encoded
    cases encoded
  have samePath :
      (resourceOf (('/' :: text) ++ counted tail)).1 =
        (resourceOf ('/' :: text)).1 :=
    resourceOf_append_tail (absent (by decide) (by decide))
      (absent (by decide) (by decide)) (splitTail_counted_eq_nil isTail)
  have isRead :=
    writesPaths_encodedInName.resourceOf_eq (noDots_of_plain plain)
  rw [written] at isRead
  rw [isCounted, samePath, isRead]

end Url

namespace Site

/-- A declared path has a target, which is no file. -/
theorem exists_target?_of_declares
    (site : Site)
    (tree : FileTree)
    {rest : String}
    (declares :
      site.endpoints.Declares ("/" ++ rest) ∨
        site.pages.Declares ("/" ++ rest)) :
    ∃ target,
      site.target? tree rest = some target ∧
        ∀ full, target ≠ .file full := by
  unfold target?
  cases found : site.endpoints.find? ("/" ++ rest) with
  | some route =>
      exact ⟨.endpoint route, rfl, fun full same => by cases same⟩
  | none =>
      rcases declares with isEndpoint | isPage
      · obtain ⟨route, isFound⟩ :=
          RouteTable.exists_find?_of_declares isEndpoint
        rw [isFound] at found
        cases found
      · obtain ⟨route, isFound⟩ :=
          RouteTable.exists_find?_of_declares isPage
        rw [isFound]
        exact ⟨.page route, rfl, fun full same => by cases same⟩

theorem routeSegments_slash
    {rest : String}
    (notRoot : rest ≠ "") :
    routeSegments ("/" ++ rest) = rest.toList.splitOnP (· == '/') := by
  have longer : "/" ++ rest ≠ "/" := by
    intro same
    have sameChars := congrArg String.toList same
    rw [String.toList_append] at sameChars
    exact notRoot (String.toList_eq_nil_iff.mp (List.cons.inj sameChars).2)
  rw [routeSegments, if_neg longer, String.toList_append]
  rfl

/-- A path without empty segments has no slash at its end, and only one in front. -/
theorem bare_of_routeSegments
    {rest : String}
    (nonempty :
      ∀ segment ∈ routeSegments ("/" ++ rest), segment ≠ []) :
    Text.Bare (· == '/') rest.toList := by
  by_cases isRoot : rest = ""
  · subst isRoot
    decide
  · rw [routeSegments_slash isRoot] at nonempty
    exact Text.bare_of_splitOnP nonempty

/-- What stands in a path is a slash or belongs to a segment. -/
theorem slash_or_mem_routeSegments
    {rest : String}
    {c : Char}
    (member : c ∈ rest.toList) :
    c = '/' ∨ ∃ segment ∈ routeSegments ("/" ++ rest), c ∈ segment := by
  have notRoot : rest ≠ "" := by
    rintro rfl
    cases member
  have inPieces :
      c ∈ (rest.toList.splitOnP (· == '/')).flatMap ('/' :: ·) := by
    rw [Text.flatMap_splitOnP]
    exact .tail '/' member
  obtain ⟨segment, isSegment, inSegment⟩ := List.mem_flatMap.mp inPieces
  rw [routeSegments_slash notRoot]
  rcases List.mem_cons.mp inSegment with isSlash | inName
  · exact .inl isSlash
  · exact .inr ⟨segment, isSegment, inName⟩

theorem plain_of_mem_padded
    {before after : Nat}
    {rest : String}
    (plain :
      ∀ segment ∈ routeSegments ("/" ++ rest),
        segment.all Url.isPlain = true) :
    ∀ c ∈ (padded before after rest).toList,
      c = '/' ∨ Url.isPlain c = true := by
  intro c member
  rw [padded, String.toList_ofList, List.mem_append, List.mem_append]
    at member
  rcases member with (inFront | inRest) | behind
  · exact .inl (List.eq_of_mem_replicate inFront)
  · rcases slash_or_mem_routeSegments inRest with
      isSlash | ⟨segment, isSegment, inSegment⟩
    · exact .inl isSlash
    · exact
        .inr (List.all_eq_true.mp (plain segment isSegment) c inSegment)
  · exact .inl (List.eq_of_mem_replicate behind)

theorem toList_padded_slash
    (before after : Nat)
    (rest : String) :
    (padded before after ("/" ++ rest)).toList =
      (List.replicate before '/' ++ ['/']) ++ rest.toList ++
        List.replicate after '/' := by
  simp [padded]

/-- In an address the slashes in front of a path stand behind the one of its authority. -/
theorem padded_slash
    (before after : Nat)
    (rest : String) :
    padded before after ("/" ++ rest) =
      "/" ++ padded before after rest := by
  rw [← String.toList_inj, toList_padded_slash, ← List.replicate_succ',
    List.replicate_succ, String.toList_append, padded,
    String.toList_ofList]
  simp only [String.toList_ofList]
  rfl

/-- The slashes around a path are no part of what is looked up. -/
theorem routePath_padded
    {url : Url}
    {rest : String}
    {before after : Nat}
    (bare : Text.Bare (· == '/') rest.toList)
    (isPath :
      url.path.chars = (padded before after ("/" ++ rest)).toList) :
    url.routePath = rest := by
  rw [toList_padded_slash] at isPath
  have inLeft :
      ∀ c ∈ List.replicate before '/' ++ ['/'], (c == '/') = true := by
    rw [← List.replicate_succ']
    exact isSlash_of_mem_replicate
  exact routePath_of_padded bare inLeft isSlash_of_mem_replicate isPath

/-- On an allowed host, the address of a plain path among slashes is admitted and read. -/
theorem exists_admitUrl_padded
    {config : Config}
    {authority rest tail : String}
    {base : Url}
    (plain :
      ∀ segment ∈ routeSegments ("/" ++ rest),
        segment.all Url.isPlain = true)
    (unended : ∀ c ∈ authority.toList, Url.inAuthority c = true)
    (admitted :
      config.admitUrl ("http://" ++ authority ++ "/") = .ok base)
    (isTail :
      tail = "" ∨ tail.toList.head? = some '?' ∨
        tail.toList.head? = some '#')
    (before after : Nat) :
    ∃ url,
      config.admitUrl
          ("http://" ++ authority ++
            padded before after ("/" ++ rest) ++ tail) =
        .ok url ∧
      url.authority = base.authority ∧
      url.path.chars = (padded before after ("/" ++ rest)).toList := by
  have isAddress :
      "http://" ++ authority ++ padded before after ("/" ++ rest) ++ tail =
        "http://" ++ authority ++ "/" ++
          (padded before after rest ++ tail) := by
    rw [padded_slash]
    simp [← String.toList_inj]
  obtain ⟨url, isAdmitted, sameAuthority, readsPath⟩ :=
    Config.exists_admitUrl_behind unended admitted
      (padded before after rest ++ tail)
  have tailChars :
      tail.toList = [] ∨ tail.toList.head? = some '?' ∨
        tail.toList.head? = some '#' :=
    isTail.imp_left String.toList_eq_nil_iff.mpr
  have isPath :
      url.path.chars = (padded before after ("/" ++ rest)).toList := by
    rw [readsPath, String.toList_append,
      Url.resourceOf_plain (plain_of_mem_padded plain) tailChars,
      padded_slash, String.toList_append]
    rfl
  exact ⟨url, isAddress ▸ isAdmitted, sameAuthority, isPath⟩

/--
A declared path is reached through any slashes around it.

Every URL that has the path between two rows of slashes leads to the target that the path
itself has, which is an endpoint or a page and never a file. When the segments consist of
letters, digits, hyphens and underscores, every address on an allowed host that has the
path between such rows is the text of such a URL, with any query and any fragment.
-/
theorem route_of_padded_path
    (site : Site)
    (tree : FileTree)
    {rest : String}
    (nonempty :
      ∀ segment ∈ routeSegments ("/" ++ rest), segment ≠ [])
    (declares :
      site.endpoints.Declares ("/" ++ rest) ∨
        site.pages.Declares ("/" ++ rest)) :
    ∃ target,
      site.target? tree rest = some target ∧
      (∀ full, target ≠ .file full) ∧
      (∀ url cookies before after,
        url.path.chars = (padded before after ("/" ++ rest)).toList →
          site.route tree url cookies =
            .ok { url, choice := site.locales.choose url cookies, target }) ∧
      ((∀ segment ∈ routeSegments ("/" ++ rest),
          segment.all Url.isPlain = true) →
        ∀ authority base before after tail cookies,
          (∀ c ∈ authority.toList, Url.inAuthority c = true) →
          site.config.admitUrl ("http://" ++ authority ++ "/") =
            .ok base →
          (tail = "" ∨ tail.toList.head? = some '?' ∨
            tail.toList.head? = some '#') →
          ∃ url,
            site.config.admitUrl
                ("http://" ++ authority ++
                  padded before after ("/" ++ rest) ++ tail) =
              .ok url ∧
            url.authority = base.authority ∧
            site.route tree url cookies =
              .ok { url, choice := site.locales.choose url cookies,
                    target }) := by
  obtain ⟨target, leads, noFile⟩ :=
    site.exists_target?_of_declares tree declares
  have bare := bare_of_routeSegments nonempty
  have routes :
      ∀ url cookies before after,
        url.path.chars = (padded before after ("/" ++ rest)).toList →
          site.route tree url cookies =
            .ok { url, choice := site.locales.choose url cookies,
                  target } := by
    intro url cookies before after isPath
    have isRest : url.routePath = rest :=
      routePath_padded bare isPath
    exact route_of_target? (isRest ▸ leads) cookies
  refine ⟨target, leads, noFile, routes, ?_⟩
  intro plain authority base before after tail cookies unended admitted
    isTail
  obtain ⟨url, isAdmitted, sameAuthority, isPath⟩ :=
    exists_admitUrl_padded plain unended admitted isTail before after
  exact
    ⟨url, isAdmitted, sameAuthority,
      routes url cookies before after isPath⟩

/-- A declared path among slashes, with a query and a fragment. -/
theorem route_of_padded_path_one :
    let address :=
      "http://" ++ "[::1]" ++ padded 2 1 ("/" ++ "one") ++ "?lang=fr#top"
    address = "http://[::1]///one/?lang=fr#top" ∧
      (∀ segment ∈ routeSegments ("/" ++ "one"), segment ≠ []) ∧
      guardedSite.endpoints.Declares ("/" ++ "one") ∧
      (∀ segment ∈ routeSegments ("/" ++ "one"),
        segment.all Url.isPlain = true) ∧
      (∀ c ∈ "[::1]".toList, Url.inAuthority c = true) ∧
      ∃ base url target,
        guardedSite.config.admitUrl ("http://" ++ "[::1]" ++ "/") =
            .ok base ∧
          guardedSite.target? .empty "one" = some target ∧
          guardedSite.config.admitUrl address = .ok url ∧
          guardedSite.route .empty url none =
            .ok { url, choice := guardedSite.locales.choose url none,
                  target } := by
  intro address
  let base : Url :=
    { scheme := "http".toList
      authority := some (.ofHost (.ipv6 [0, 0, 0, 0, 0, 0, 0, 1]))
      path := .segments [[]]
      query := none
      fragment := none }
  have nonempty :
      ∀ segment ∈ routeSegments ("/" ++ "one"), segment ≠ [] := by
    decide
  have declares : guardedSite.endpoints.Declares ("/" ++ "one") :=
    ⟨("/one", ⟨⟨"searchinfo", "text/one"⟩, false⟩), .head _, rfl⟩
  have plain :
      ∀ segment ∈ routeSegments ("/" ++ "one"),
        segment.all Url.isPlain = true := by
    decide
  have unended : ∀ c ∈ "[::1]".toList, Url.inAuthority c = true :=
    List.all_eq_true.mp (by decide)
  have admitted :
      guardedSite.config.admitUrl ("http://" ++ "[::1]" ++ "/") =
        .ok base := by
    apply eq_ok_of_toOption_eq_some
    decide
  obtain ⟨target, leads, -, -, reached⟩ :=
    guardedSite.route_of_padded_path .empty nonempty (.inl declares)
  obtain ⟨url, isAdmitted, -, routes⟩ :=
    reached plain "[::1]" base 2 1 "?lang=fr#top" none unended admitted
      (.inr (.inl rfl))
  exact
    ⟨by decide, nonempty, declares, plain, unended, base, url, target,
      admitted, leads, isAdmitted, routes⟩

end Site

end CatalogSite
