import CatalogSite.Proofs.Text.Trim
import CatalogSite.Url.Parse

namespace CatalogSite.Url

/-!
# How a web address is divided

A web address is cleaned, loses its scheme and the slashes behind it, and is then cut at
the first character that ends an authority. The authority is read from what stands in
front of the cut, and may be refused; the path, the query and the fragment are read from
what stands behind it, and from nothing else.
-/

variable {scheme text rest : List Char}

/-! ## What counts of an address -/

/-- Whether a character counts inside a URL. -/
def isKept
    (c : Char) :
    Bool :=
  c != '\t' && c != '\n' && c != '\r'

/-- What counts of the text at the end of an address. -/
def counted
    (text : List Char) :
    List Char :=
  (Text.dropEndWhile (fun c => c.toNat ≤ 0x20) text).filter isKept

/-- A text counts up to its last character, if this is no blank and no control. -/
theorem counted_append
    {front : List Char}
    (lastVisible : ∀ c, front.getLast? = some c → 0x20 < c.toNat)
    (rest : List Char) :
    counted (front ++ rest) = front.filter isKept ++ counted rest := by
  have lastStays :
      ∀ c, front.getLast? = some c → decide (c.toNat ≤ 0x20) = false := by
    intro c isLast
    rw [decide_eq_false_iff_not, Nat.not_le]
    exact lastVisible c isLast
  rw [counted, Text.dropEndWhile_append lastStays, List.filter_append]
  rfl

theorem counted_eq_filter
    (lastVisible : ∀ c, text.getLast? = some c → 0x20 < c.toNat) :
    counted text = text.filter isKept := by
  have whole := counted_append lastVisible []
  rw [List.append_nil] at whole
  rw [whole]
  exact List.append_nil (text.filter isKept)

/-- Characters that are neither blanks nor controls count inside a URL. -/
theorem filter_isKept_of_visible
    {chars : List Char}
    (visible : ∀ c ∈ chars, 0x20 < c.toNat) :
    chars.filter isKept = chars := by
  rw [List.filter_eq_self]
  intro c member
  have isVisible := visible c member
  unfold isKept
  simp only [Bool.and_eq_true, bne_iff_ne]
  refine ⟨⟨?_, ?_⟩, ?_⟩
  all_goals
    rintro rfl
    revert isVisible
    decide

theorem counted_append_of_visible
    {front : List Char}
    (visible : ∀ c ∈ front, 0x20 < c.toNat)
    (rest : List Char) :
    counted (front ++ rest) = front ++ counted rest := by
  have lastVisible : ∀ c, front.getLast? = some c → 0x20 < c.toNat :=
    fun c isLast => visible c (List.mem_of_getLast? isLast)
  rw [counted_append lastVisible, filter_isKept_of_visible visible]

/-! ## Authority -/

/-- Whether a character belongs to an authority. -/
def inAuthority
    (c : Char) :
    Bool :=
  !SchemeKind.web.endsAuthority c

theorem mem_of_mem_splitUserinfo
    {c : Char}
    (member : c ∈ (splitUserinfo text).2) :
    c ∈ text := by
  unfold splitUserinfo at member
  dsimp only at member
  split at member
  · exact member
  · exact List.mem_reverse.mp
      ((List.takeWhile_subset _) (List.mem_reverse.mp member))

theorem mem_of_mem_splitHost
    {insideBrackets : Bool}
    {c : Char}
    (member : c ∈ (splitHost insideBrackets text).2) :
    c ∈ text := by
  induction text generalizing insideBrackets with
  | nil =>
      cases member
  | cons first others inductionHypothesis =>
      unfold splitHost at member
      split at member
      · exact member
      · exact List.mem_cons_of_mem first (inductionHypothesis member)

/-- A port is cut off before a backslash would be reached. -/
theorem ne_backslash_of_mem_port
    {c : Char}
    (member :
      c ∈ (splitHost false
        (splitUserinfo (text.takeWhile inAuthority)).2).2) :
    c ≠ '\\' := by
  have inZone : c ∈ text.takeWhile inAuthority :=
    mem_of_mem_splitUserinfo (mem_of_mem_splitHost member)
  have isAuthority := List.mem_takeWhile_imp inZone
  rintro rfl
  revert isAuthority
  decide

/-- The authority that a text without slashes is read as. -/
def readAuthority
    (scheme text : List Char) :
    Except UrlError Authority := do
  let (userinfo, server) := splitUserinfo text
  let (hostText, portion) := splitHost false server
  if hostText.isEmpty then
    throw .emptyHost
  let host ← parseSpecialHost hostText
  let port ← parsePort scheme (portion.drop 1)
  let (username, password) := parseUserinfo (userinfo.getD [])
  return { username, password, host, port }

/-- A host in brackets is an address; any other one is read from a domain name. -/
theorem parseSpecialHost_cases
    {host : Host}
    (reads : parseSpecialHost text = .ok host) :
    (∃ pieces, host = .ipv6 pieces) ∨
      ∃ domain,
        (Text.decode? (percentDecode (Text.utf8 text))).bind
            domainToAscii? =
          some domain ∧
        ((∃ address, host = .ipv4 address) ∨ host = .domain domain) := by
  have mapped
      {α : Type}
      {result : Except UrlError α}
      {form : α → Host}
      (reads : result.map form = .ok host) :
      ∃ value, host = form value := by
    cases result with
    | error cause =>
        cases reads
    | ok value =>
        exact ⟨value, (Except.ok.inj reads).symm⟩
  unfold parseSpecialHost at reads
  split at reads
  · unfold parseBracketed at reads
    split at reads
    · exact .inl (mapped reads)
    · cases reads
  · split at reads
    · cases reads
    · rename_i domain isDomain
      right
      refine ⟨domain, isDomain, ?_⟩
      split at reads
      · cases reads
      · split at reads
        · exact .inl (mapped reads)
        · exact .inr (Except.ok.inj reads).symm

/-- The host of a scheme with rules is never empty. -/
theorem parseSpecialHost_ne_empty
    (text : List Char) :
    parseSpecialHost text ≠ .ok .empty := by
  intro reads
  rcases parseSpecialHost_cases reads with
    ⟨pieces, same⟩ | ⟨domain, -, ⟨address, same⟩ | same⟩
  all_goals cases same

theorem splitHost_fst_ne_nil
    {server hostText portion : List Char}
    (isHost : splitHost false server = (hostText, portion))
    (someHost : hostText ≠ []) :
    server ≠ [] := by
  rintro rfl
  cases isHost
  exact someHost rfl

/-- An authority is read from what stands in front of the character that ends it. -/
theorem parseAuthority_web
    (scheme text : List Char) :
    parseAuthority .web scheme text =
      (readAuthority scheme (text.takeWhile inAuthority)).map
        (·, text.dropWhile inAuthority) := by
  let zone := text.takeWhile inAuthority
  let tail := text.dropWhile inAuthority
  rcases isServer : splitUserinfo zone with ⟨userinfo, server⟩
  rcases isHost : splitHost false server with ⟨hostText, portion⟩
  have noBackslash : ∀ c ∈ portion, c ≠ '\\' := by
    intro c member
    apply ne_backslash_of_mem_port
    change c ∈ (splitHost false (splitUserinfo zone).2).2
    rw [isServer, isHost]
    exact member
  have isZone :
      text.takeWhile (!SchemeKind.web.endsAuthority ·) = zone := rfl
  have isTail :
      text.dropWhile (!SchemeKind.web.endsAuthority ·) = tail := rfl
  change _ = (readAuthority scheme zone).map (·, tail)
  unfold parseAuthority readAuthority
  simp only [isZone, isTail, isServer, isHost]
  clear_value zone tail
  by_cases noHost : hostText.isEmpty = true
  · simp only [noHost]
    split <;> rfl
  have someServer : ¬ server.isEmpty = true := by
    rw [List.isEmpty_iff] at noHost ⊢
    exact splitHost_fst_ne_nil isHost noHost
  simp only [noHost, someServer, SchemeKind.isSpecial, Bool.false_eq_true,
    and_false, false_and, if_false, if_true]
  cases isParsed : parseSpecialHost hostText with
  | error cause =>
      rfl
  | ok host =>
      have notEmpty : host ≠ .empty := by
        rintro rfl
        exact parseSpecialHost_ne_empty hostText isParsed
      simp only [bind, Except.bind, notEmpty, false_and, if_false]
      cases portion with
      | nil =>
          rw [List.drop_nil]
          cases parsePort scheme [] <;> rfl
      | cons mark digits =>
          have inPort : ∀ c ∈ digits, decide (c ≠ '\\') = true :=
            fun c member =>
              decide_eq_true (noBackslash c (.tail mark member))
          dsimp only
          rw [List.dropWhile_eq_nil_iff.mpr inPort,
            List.takeWhile_eq_self_iff.mpr inPort, List.drop_one,
            List.tail_cons]
          cases parsePort scheme digits <;> rfl

/-! ## The URL of an address -/

/-- The path and the query that are read from what stands behind an authority. -/
def resourceOf
    (rest : List Char) :
    UrlPath × Option (List Char) :=
  (pathAfterAuthority .web (splitTail rest).1,
    (splitTail rest).2.1.map (encodeQuery .web))

/-- The URL of an authority and what stands behind it. -/
def urlBehind
    (scheme rest : List Char)
    (authority : Authority) :
    Url where
  scheme := scheme
  authority := some authority
  path := (resourceOf rest).1
  query := (resourceOf rest).2
  fragment := (splitTail rest).2.2.map encodeFragment

theorem parseAfterSlashes_web
    (scheme text : List Char) :
    parseAfterSlashes .web scheme text =
      (readAuthority scheme (text.takeWhile inAuthority)).map
        (urlBehind scheme (text.dropWhile inAuthority)) := by
  rw [parseAfterSlashes, parseAuthority_web]
  cases readAuthority scheme (text.takeWhile inAuthority) <;> rfl

theorem resource_of_parseAfterSlashes
    {url : Url}
    (reads : parseAfterSlashes .web scheme text = .ok url) :
    (url.path, url.query) = resourceOf (text.dropWhile inAuthority) := by
  rw [parseAfterSlashes_web] at reads
  cases isAuthority :
      readAuthority scheme (text.takeWhile inAuthority) with
  | error cause =>
      rw [isAuthority] at reads
      cases reads
  | ok authority =>
      rw [isAuthority] at reads
      cases reads
      rfl

theorem http_append
    (name more : String) :
    "http://" ++ name ++ more = "http:" ++ ("//" ++ name ++ more) := by
  simp [← String.toList_inj]

/-- A web address is read from what counts of it behind the scheme and the slashes. -/
theorem parse_http
    (text : String) :
    parse ("http:" ++ text) =
      parseAfterSlashes .web "http".toList
        ((counted text.toList).dropWhile SchemeKind.web.isSlash) := by
  have isHttp : SchemeKind.ofScheme "http".toList = .web := by
    decide
  have isScheme :
      ∀ rest,
        splitScheme? ("http:".toList ++ rest) =
          some ("http".toList, rest) := by
    intro rest
    rfl
  have clean :
      cleaned ("http:" ++ text).toList =
        "http:".toList ++ counted text.toList := by
    have schemeVisible : ∀ c ∈ "http:".toList, 0x20 < c.toNat := by
      intro c member
      have allVisible : ("http:".toList.all (0x20 < ·.toNat)) = true := by
        decide
      exact of_decide_eq_true (List.all_eq_true.mp allVisible c member)
    rw [String.toList_append, ← counted_append_of_visible schemeVisible]
    rfl
  simp only [parse, parseChars, clean, isScheme, isHttp]

/-- What counts of an address whose authority is followed by a slash. -/
theorem counted_authority
    (name more : String) :
    counted ("//" ++ name ++ "/" ++ more).toList =
      ['/', '/'] ++
        (name.toList.filter isKept ++ '/' :: counted more.toList) := by
  have slashLast :
      ∀ c, ("//" ++ name ++ "/").toList.getLast? = some c →
        0x20 < c.toNat := by
    intro c isLast
    rw [String.toList_append, List.getLast?_append] at isLast
    cases isLast
    decide
  rw [String.toList_append, counted_append slashLast]
  simp [isKept]

/--
An address whose authority is followed by a slash.

Of the authority some character has to count, since the slashes behind the scheme would
take in the slash behind it otherwise.
-/
theorem parse_http_slash
    {name : String}
    (unended : ∀ c ∈ name.toList, inAuthority c = true)
    (counts : name.toList.filter isKept ≠ [])
    (more : String) :
    parse ("http://" ++ name ++ "/" ++ more) =
      (readAuthority "http".toList (name.toList.filter isKept)).map
        (urlBehind "http".toList ('/' :: counted more.toList)) := by
  let zone := name.toList.filter isKept
  have zoneUnended : ∀ c ∈ zone, inAuthority c = true :=
    fun c member => unended c (List.mem_filter.mp member).1
  have isAddress :
      "http://" ++ name ++ "/" ++ more =
        "http:" ++ ("//" ++ name ++ "/" ++ more) := by
    rw [http_append, String.append_assoc]
  have slashes : ∀ c ∈ ['/', '/'], SchemeKind.web.isSlash c = true :=
    List.all_eq_true.mp (by decide)
  have behindSlashes :
      (['/', '/'] ++ (zone ++ '/' :: counted more.toList)).dropWhile
          SchemeKind.web.isSlash =
        zone ++ '/' :: counted more.toList := by
    rw [List.dropWhile_append_of_pos slashes]
    apply Text.dropWhile_of_head
    intro c isFirst
    rw [List.head?_append, Option.or_of_isSome
      (List.isSome_head?.mpr counts)] at isFirst
    have isAuthority := zoneUnended c (List.mem_of_head? isFirst)
    simp [inAuthority, SchemeKind.endsAuthority] at isAuthority
    exact isAuthority.1.1
  have front :
      (zone ++ '/' :: counted more.toList).takeWhile inAuthority =
        zone := by
    rw [List.takeWhile_append_of_pos zoneUnended]
    simp [inAuthority, SchemeKind.endsAuthority, SchemeKind.isSlash]
  have behind :
      (zone ++ '/' :: counted more.toList).dropWhile inAuthority =
        '/' :: counted more.toList := by
    rw [List.dropWhile_append_of_pos zoneUnended]
    simp [inAuthority, SchemeKind.endsAuthority, SchemeKind.isSlash]
  rw [isAddress, parse_http, counted_authority, behindSlashes,
    parseAfterSlashes_web, front, behind]

/--
Every text behind the authority of an address leads to a URL with this authority.

Its path, its query and its fragment are read from the text and from nothing else.
-/
theorem exists_authority_of_parse
    {name : String}
    {base : Url}
    (unended : ∀ c ∈ name.toList, inAuthority c = true)
    (parses : parse ("http://" ++ name ++ "/") = .ok base) :
    ∃ authority,
      base.authority = some authority ∧
        ∀ more,
          parse ("http://" ++ name ++ "/" ++ more) =
            .ok (urlBehind "http".toList ('/' :: counted more.toList)
              authority) := by
  have counts : name.toList.filter isKept ≠ [] := by
    intro nothing
    have isAddress :
        "http://" ++ name ++ "/" =
          "http:" ++ ("//" ++ name ++ "/" ++ "") := by
      rw [String.append_empty, http_append]
    rw [isAddress, parse_http, counted_authority, nothing,
      parseAfterSlashes_web] at parses
    cases parses
  have isBase := parse_http_slash unended counts ""
  rw [String.append_empty, parses] at isBase
  cases reads : readAuthority "http".toList (name.toList.filter isKept) with
  | error cause =>
      rw [reads] at isBase
      cases isBase
  | ok authority =>
      rw [reads] at isBase
      refine ⟨authority, ?_, ?_⟩
      · cases isBase
        rfl
      · intro more
        rw [parse_http_slash unended counts, reads]
        rfl

end CatalogSite.Url
