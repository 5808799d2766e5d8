import CatalogSite.Preview.Command
import CatalogSite.Proofs.Site.Failing
import CatalogSite.Proofs.Url.HostSpelling
import CatalogSite.Proofs.Url.WrittenPath

namespace CatalogSite

/-!
# Access hosts and the addresses of a preview

An access host is configured as a text, and compared as it stands with the text of the
host that a request names, which is normalized. A URL of a configured host is therefore
admitted when the host's own text is listed, and refused otherwise, however the host is
spelled in the URL and in the configuration. A preview asks for an address on the first
access host, and writes the host by its own text: its request fares no better.
-/

/-- The text of a host is read as this host. -/
def Host.IsReadBack
    (host : Host) : Prop :=
  ∃ url,
    Url.parse ("http://" ++ String.ofList host.chars ++ "/") = .ok url ∧
      url.host? = some host

namespace Url

variable {url : Url} {host : Host}

theorem hostText?_of_host?
    (isHost : url.host? = some host) :
    url.hostText? = some (String.ofList host.chars) := by
  rw [hostText?, isHost]
  rfl

theorem exists_parseSpecialHost_of_readAuthority
    {scheme text : List Char}
    {authority : Authority}
    (reads : readAuthority scheme text = .ok authority) :
    ∃ hostText, parseSpecialHost hostText = .ok authority.host := by
  unfold readAuthority at reads
  dsimp only at reads
  split at reads
  · cases reads
  · obtain ⟨host, isHost, reads⟩ := exists_of_bind_eq_ok reads
    obtain ⟨port, -, reads⟩ := exists_of_bind_eq_ok reads
    cases reads
    exact ⟨_, isHost⟩

/-- A web address is read to the URL of an authority and what stands behind it. -/
theorem exists_urlBehind_of_parse
    {text : String}
    (parses : parse ("http:" ++ text) = .ok url) :
    ∃ rest authority hostText,
      url = urlBehind "http".toList rest authority ∧
        parseSpecialHost hostText = .ok authority.host := by
  rw [parse_http, parseAfterSlashes_web] at parses
  generalize (counted text.toList).dropWhile SchemeKind.web.isSlash =
    address at parses
  cases reads :
      readAuthority "http".toList (address.takeWhile inAuthority) with
  | error cause =>
      rw [reads] at parses
      cases parses
  | ok authority =>
      rw [reads] at parses
      obtain ⟨hostText, isHost⟩ :=
        exists_parseSpecialHost_of_readAuthority reads
      exact
        ⟨_, authority, hostText, (Except.ok.inj parses).symm, isHost⟩

/-- The path behind an authority has segments. -/
theorem exists_segments
    (scheme rest : List Char)
    (authority : Authority) :
    ∃ names,
      (urlBehind scheme rest authority).path = .segments names := by
  unfold urlBehind resourceOf
  cases (splitTail rest).1 with
  | nil =>
      exact ⟨[[]], rfl⟩
  | cons first others =>
      exact ⟨_, rfl⟩

/-- The address of a host is a web address, and its path has segments. -/
theorem segments_of_parse
    {entry : String}
    (parses : parse ("http://" ++ entry ++ "/") = .ok url) :
    url.scheme = "http".toList ∧ ∃ names, url.path = .segments names := by
  obtain ⟨behind, authority, -, isUrl, -⟩ :=
    exists_urlBehind_of_parse (http_append entry "/" ▸ parses)
  rw [isUrl]
  exact ⟨rfl, exists_segments "http".toList behind authority⟩

/-- Following some segments ends with at least one. -/
theorem walkSegments_ne_nil
    {names segments : List (List Char)}
    (nonempty : segments ≠ []) :
    walkSegments .web names segments ≠ [] := by
  fun_induction walkSegments .web names segments with
  | case1 names =>
      exact absurd rfl nonempty
  | case2 names last isDouble =>
      simp
  | case3 names last notDouble isSingle =>
      simp
  | case4 names last notDouble notSingle =>
      simp [segmentNames]
  | case5 names segment rest notLast isDouble inductionHypothesis =>
      exact inductionHypothesis notLast
  | case6 names segment rest notLast notDouble isSingle inductionHypothesis =>
      exact inductionHypothesis notLast
  | case7 names segment rest notLast notDouble notSingle inductionHypothesis =>
      exact inductionHypothesis notLast

/-- A path that begins with a single slash replaces the path of a base. -/
theorem exists_join_of_path
    {base : Url}
    {rest : String}
    {names : List (List Char)}
    (isWeb : base.scheme = "http".toList)
    (isPath : base.path = .segments names)
    (single :
      ∀ c, (counted rest.toList).head? = some c →
        SchemeKind.web.isSlash c = false) :
    ∃ url first others,
      join base ("/" ++ rest) = .ok url ∧
        url.scheme = base.scheme ∧
        url.authority = base.authority ∧
        url.path = .segments (first :: others) := by
  have isKind : SchemeKind.ofScheme base.scheme = .web := by
    rw [isWeb]
    decide
  have isText :
      cleaned ("/" ++ rest).toList = '/' :: counted rest.toList := by
    have slashVisible : ∀ c ∈ ['/'], 0x20 < c.toNat :=
      List.forall_mem_singleton.mpr (by decide)
    rw [String.toList_append, ← List.singleton_append,
      ← counted_append_of_visible slashVisible]
    rfl
  have noScheme : splitScheme? ('/' :: counted rest.toList) = none := by
    rfl
  have written :
      (splitTail ('/' :: counted rest.toList)).1 =
        '/' :: (splitTail (counted rest.toList)).1 := by
    have noQuery : '?' ∉ ['/'] := by
      decide
    have noFragment : '#' ∉ ['/'] := by
      decide
    exact splitTail_append noQuery noFragment (counted rest.toList)
  have singleWritten :
      ((splitTail (counted rest.toList)).1.head?.map
        SchemeKind.web.isSlash).getD false = false := by
    cases isFirst : (splitTail (counted rest.toList)).1.head? with
    | none =>
        rfl
    | some c =>
        exact single c (head?_splitTail isFirst)
  let path := (splitTail (counted rest.toList)).1
  let tail := (splitTail ('/' :: counted rest.toList)).2
  have joined :
      join base ("/" ++ rest) =
        .ok { base with
              path := .segments (pathNames .web [] path)
              query := tail.1.map (encodeQuery .web)
              fragment := tail.2.map encodeFragment } := by
    simp only [join, parseChars, isText, noScheme, parseWithoutScheme,
      isPath, resolveRelative, isKind, written, singleWritten]
    rfl
  obtain ⟨first, others, shape⟩ :=
    List.exists_cons_of_ne_nil
      (walkSegments_ne_nil (List.splitOnP_ne_nil _ path))
  exact
    ⟨_, first, others, joined, rfl, rfl, congrArg UrlPath.segments shape⟩

/-- A URL whose authority is only a host writes the text of the host in front of its path. -/
theorem exists_text_of_ofHost
    {first : List Char}
    {others : List (List Char)}
    (isWeb : url.scheme = "http".toList)
    (onlyHost : url.authority = some (.ofHost host))
    (isPath : url.path = .segments (first :: others)) :
    ∃ more,
      url.text =
        "http://" ++ String.ofList host.chars ++ "/" ++ more := by
  let behind :=
    first ++ (others.flatMap fun name => '/' :: name) ++
      markedChars '?' url.query ++ markedChars '#' url.fragment
  refine ⟨String.ofList behind, ?_⟩
  have isText :
      url.chars =
        "http://".toList ++ host.chars ++ '/' :: behind := by
    simp [chars, authorityChars, isWeb, onlyHost, isPath, UrlPath.chars,
      Authority.chars, Authority.ofHost, Authority.userinfo, behind]
  rw [text, isText]
  simp [← String.toList_inj]

end Url

namespace Preview

/-- A preview of a path asks for an address on the first access host. -/
theorem exists_address_of_path
    {config : Config}
    {entry rest : String}
    {host : Host}
    {base : Url}
    (isFirst : config.accessHosts.head? = some entry)
    (parses : Url.parse ("http://" ++ entry ++ "/") = .ok base)
    (onlyHost : base.authority = some (.ofHost host))
    (single :
      ∀ c, (Url.counted rest.toList).head? = some c →
        Url.SchemeKind.web.isSlash c = false)
    (language : Option String) :
    ∃ url more,
      address config ("/" ++ rest) language = .ok url ∧
        url.authority = some (.ofHost host) ∧
        url.text =
          "http://" ++ String.ofList host.chars ++ "/" ++ more := by
  have isEntry : config.accessHosts.headD "localhost" = entry := by
    rw [List.headD_eq_head?_getD, isFirst]
    rfl
  obtain ⟨isWeb, names, isPath⟩ := Url.segments_of_parse parses
  obtain ⟨url, first, others, joined, sameScheme, sameAuthority, hasPath⟩ :=
    Url.exists_join_of_path isWeb isPath single
  have onHost : url.authority = some (.ofHost host) :=
    sameAuthority.trans onlyHost
  cases language with
  | none =>
      obtain ⟨more, isText⟩ :=
        Url.exists_text_of_ofHost (sameScheme.trans isWeb) onHost hasPath
      exact
        ⟨url, more, by simp only [address, isEntry, parses, joined],
          onHost, isText⟩
  | some language =>
      let named := url.withQueryPair languageKey language
      have namedWeb : named.scheme = "http".toList :=
        sameScheme.trans isWeb
      obtain ⟨more, isText⟩ :=
        Url.exists_text_of_ofHost namedWeb onHost hasPath
      exact
        ⟨named, more, by simp only [address, isEntry, parses, joined]; rfl,
          onHost, isText⟩

end Preview

section AccessHost

variable {config : Config} {entry : String} {host : Host} {base : Url}
  (parses : Url.parse ("http://" ++ entry ++ "/") = .ok base)
  (onlyHost : base.authority = some (.ofHost host))

include parses onlyHost

/-- The host of an address that names one is not empty, and its text ends no authority. -/
theorem Url.host_of_parse :
    base.host? = some host ∧
      ∀ c ∈ (String.ofList host.chars).toList, inAuthority c = true := by
  obtain ⟨rest, authority, hostText, isBase, reads⟩ :=
    exists_urlBehind_of_parse (http_append entry "/" ▸ parses)
  have isAuthority : authority = .ofHost host := by
    rw [isBase] at onlyHost
    exact Option.some.inj onlyHost
  rw [isAuthority] at reads
  constructor
  · rw [host?, onlyHost]
    cases host with
    | empty =>
        exact absurd reads (parseSpecialHost_ne_empty hostText)
    | domain name => rfl
    | ipv4 address => rfl
    | ipv6 pieces => rfl
  · rw [String.toList_ofList]
    exact inAuthority_of_mem_chars reads

/-- A host that is spelled in any case is the same host. -/
theorem Url.exists_parse_of_spelled
    {spelled : String}
    (same : Text.equalsIgnoringAsciiCase spelled entry = true) :
    ∃ url,
      parse ("http://" ++ spelled ++ "/") = .ok url ∧
        url.host? = some host := by
  obtain ⟨isHost, -⟩ := Url.host_of_parse parses onlyHost
  have sameBehind :
      Text.equalsIgnoringAsciiCase ("//" ++ spelled ++ "/")
        ("//" ++ entry ++ "/") = true := by
    have sameChars :
        spelled.toList.map Char.toLower =
          entry.toList.map Char.toLower := by
      simpa [Text.equalsIgnoringAsciiCase] using same
    simp [Text.equalsIgnoringAsciiCase, sameChars]
  have sameHost := host?_of_parse_congr sameBehind
  rw [← http_append, ← http_append, parses] at sameHost
  cases parsesSpelled : parse ("http://" ++ spelled ++ "/") with
  | error cause =>
      rw [parsesSpelled] at sameHost
      cases sameHost
  | ok url =>
      rw [parsesSpelled] at sameHost
      exact ⟨url, rfl, (Except.ok.inj sameHost).trans isHost⟩

/-- An address that writes the host's own text is read as an address of the host. -/
theorem Url.exists_parse_behind_host
    (readBack : host.IsReadBack)
    (more : String) :
    ∃ url,
      parse ("http://" ++ String.ofList host.chars ++ "/" ++ more) =
          .ok url ∧
        url.host? = some host := by
  obtain ⟨-, unended⟩ := Url.host_of_parse parses onlyHost
  obtain ⟨own, parsesOwn, ownHost⟩ := readBack
  obtain ⟨authority, isOwn, leadsTo⟩ :=
    exists_authority_of_parse unended parsesOwn
  let url := urlBehind "http".toList ('/' :: counted more.toList) authority
  have sameAuthority : url.authority = own.authority :=
    isOwn.symm
  have isHost : url.host? = some host := by
    rw [host?, sameAuthority]
    exact ownHost
  exact ⟨url, leadsTo more, isHost⟩

end AccessHost

/-- Where access hosts are listed, a URL is judged by the text of its host. -/
theorem Config.admitUrl_of_host?
    {config : Config}
    {text : String}
    {url : Url}
    {host : Host}
    (limited : config.accessHosts ≠ [])
    (parses : Url.parse text = .ok url)
    (isHost : url.host? = some host) :
    config.admitUrl text =
      if String.ofList host.chars ∈ config.accessHosts then .ok url
      else
        .error
          (.refused (.disallowedHost (String.ofList host.chars))) := by
  have isText : url.hostText?.getD "" = String.ofList host.chars := by
    rw [Url.hostText?_of_host? isHost]
    rfl
  simp only [admitUrl_of_parse parses, isText, allowsHost_iff, limited,
    false_or]

/--
A configured host is allowed exactly when it is configured by its own text.

For an entry that is read as a host, let the text of the host be what the URL parser makes
of it. Every URL of the host is admitted if some entry is this text, and every one is
refused as disallowed if none is; no spelling in the URL makes a difference. A spelling of
the entry in other letter case is read as the same host, so that an entry with a capital
refuses even its own address, unless the small form is listed as well. When the entry is
the first one, a preview of any path asks for an address that writes the host by its text.
This address is read as the host, and is admitted or refused by the same rule, if the
parser reads the text of the host as the host. That it does is shown here for an entry
that differs from the text in case at most, and asked of the parser for all others.
-/
theorem Config.admitUrl_by_host_text
    {config : Config}
    {entry : String}
    {host : Host}
    {base : Url}
    (listed : entry ∈ config.accessHosts)
    (parses : Url.parse ("http://" ++ entry ++ "/") = .ok base)
    (onlyHost : base.authority = some (.ofHost host)) :
    let hostText := String.ofList host.chars
    (∀ text url,
      Url.parse text = .ok url →
        url.host? = some host →
          config.admitUrl text =
            if hostText ∈ config.accessHosts then .ok url
            else .error (.refused (.disallowedHost hostText))) ∧
    (∀ spelled,
      Text.equalsIgnoringAsciiCase spelled entry = true →
        ∃ url,
          Url.parse ("http://" ++ spelled ++ "/") = .ok url ∧
            url.host? = some host) ∧
    (config.accessHosts.head? = some entry →
      Text.equalsIgnoringAsciiCase hostText entry = true ∨
          host.IsReadBack →
        ∀ rest language,
          (∀ c, (Url.counted rest.toList).head? = some c →
            Url.SchemeKind.web.isSlash c = false) →
          ∃ url read,
            Preview.address config ("/" ++ rest) language = .ok url ∧
              Url.parse url.text = .ok read ∧
              read.host? = some host ∧
              (config.admitUrl url.text = .ok read ↔
                hostText ∈ config.accessHosts)) := by
  intro hostText
  have limited : config.accessHosts ≠ [] :=
    List.ne_nil_of_mem listed
  refine
    ⟨fun text url => admitUrl_of_host? limited,
      fun spelled => Url.exists_parse_of_spelled parses onlyHost, ?_⟩
  intro isFirst sameOrReadBack rest language single
  have readBack : host.IsReadBack :=
    sameOrReadBack.elim (Url.exists_parse_of_spelled parses onlyHost) id
  obtain ⟨url, more, isAddress, -, isText⟩ :=
    Preview.exists_address_of_path isFirst parses onlyHost single language
  -- The address is written with the host's own text, which is read as the same host.
  obtain ⟨read, parsesText, readHost⟩ :=
    Url.exists_parse_behind_host parses onlyHost readBack more
  rw [← isText] at parsesText
  refine ⟨url, read, isAddress, parsesText, readHost, ?_⟩
  rw [admitUrl_of_host? limited parsesText readHost]
  split
  · rename_i isListed
    exact iff_of_true rfl isListed
  · rename_i notListed
    exact iff_of_false (fun same => by cases same) notListed

/-- A URL of the network address `::a`, for a path. -/
def addressUrl
    (names : List (List Char)) :
    Url where
  scheme := "http".toList
  authority := some (.ofHost (.ipv6 [0, 0, 0, 0, 0, 0, 0, 10]))
  path := .segments names
  query := none
  fragment := none

/--
A host that is listed by its own text is admitted in every spelling.

So is the preview, although it goes by the first entry, which is another spelling.
-/
theorem Config.admitUrl_by_host_text_long_spelling :
    let config : Config :=
      { Config.defaults with accessHosts := ["[0:0::A]", "[::a]"] }
    let host : Host := .ipv6 [0, 0, 0, 0, 0, 0, 0, 10]
    "[0:0::A]" ∈ config.accessHosts ∧
      Url.parse ("http://" ++ "[0:0::A]" ++ "/") =
        .ok (addressUrl [[]]) ∧
      (addressUrl [[]]).authority = some (.ofHost host) ∧
      host.IsReadBack ∧
      config.admitUrl "http://[0::A]/x" =
        .ok (addressUrl ["x".toList]) ∧
      ∃ url read,
        Preview.address config ("/" ++ "search") (some "en") = .ok url ∧
          config.admitUrl url.text = .ok read := by
  intro config host
  have listed : "[0:0::A]" ∈ config.accessHosts :=
    List.mem_cons_self
  have parses :
      Url.parse ("http://" ++ "[0:0::A]" ++ "/") =
        .ok (addressUrl [[]]) := by
    apply eq_ok_of_toOption_eq_some
    decide
  have parsesOwn :
      Url.parse ("http://" ++ String.ofList host.chars ++ "/") =
        .ok (addressUrl [[]]) := by
    apply eq_ok_of_toOption_eq_some
    decide
  have readBack : host.IsReadBack :=
    ⟨addressUrl [[]], parsesOwn, rfl⟩
  have parsesSpelled :
      Url.parse "http://[0::A]/x" = .ok (addressUrl ["x".toList]) := by
    apply eq_ok_of_toOption_eq_some
    decide
  obtain ⟨judges, -, previews⟩ :=
    admitUrl_by_host_text listed parses rfl
  have ownText : String.ofList host.chars ∈ config.accessHosts := by
    decide
  have single :
      ∀ c, (Url.counted "search".toList).head? = some c →
        Url.SchemeKind.web.isSlash c = false := by
    intro c isFirst
    cases isFirst
    decide
  obtain ⟨url, read, isAddress, -, -, admitted⟩ :=
    previews rfl (.inr readBack) "search" (some "en") single
  refine
    ⟨listed, parses, rfl, readBack, ?_, url, read, isAddress,
      admitted.mpr ownText⟩
  rw [judges _ _ parsesSpelled rfl, if_pos ownText]

/-- An entry with a capital refuses its own address, and the preview of the root. -/
theorem exists_access_host_refused :
    let config : Config :=
      { Config.defaults with accessHosts := ["[::A]"] }
    let refusal : RequestError := .refused (.disallowedHost "[::a]")
    ∃ url,
      "[::A]" ∈ config.accessHosts ∧
        Url.parse ("http://" ++ "[::A]" ++ "/") = .ok url ∧
        url.authority =
          some (.ofHost (.ipv6 [0, 0, 0, 0, 0, 0, 0, 10])) ∧
        config.admitUrl ("http://" ++ "[::A]" ++ "/") =
          .error refusal ∧
        Preview.address config "/" none = .ok url ∧
        config.admitUrl url.text = .error refusal := by
  intro config refusal
  have parses :
      Url.parse ("http://" ++ "[::A]" ++ "/") =
        .ok (addressUrl [[]]) := by
    apply eq_ok_of_toOption_eq_some
    decide
  have parsesText :
      Url.parse (addressUrl [[]]).text = .ok (addressUrl [[]]) := by
    apply eq_ok_of_toOption_eq_some
    decide
  have limited : config.accessHosts ≠ [] :=
    List.cons_ne_nil _ _
  have notOwnText :
      String.ofList (Host.ipv6 [0, 0, 0, 0, 0, 0, 0, 10]).chars ∉
        config.accessHosts := by
    decide
  have refused
      {text : String}
      (parsesUrl : Url.parse text = .ok (addressUrl [[]])) :
      config.admitUrl text = .error refusal := by
    rw [Config.admitUrl_of_host? limited parsesUrl rfl,
      if_neg notOwnText]
    decide
  have isAddress :
      Preview.address config "/" none = .ok (addressUrl [[]]) := by
    apply eq_ok_of_toOption_eq_some
    decide
  exact
    ⟨addressUrl [[]], List.mem_singleton.mpr rfl, parses, rfl,
      refused parses, isAddress, refused parsesText⟩

end CatalogSite
