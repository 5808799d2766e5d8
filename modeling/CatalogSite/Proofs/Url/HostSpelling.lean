import CatalogSite.Proofs.Text.CaseBlind
import CatalogSite.Proofs.Url.PercentText
import CatalogSite.Proofs.Url.WebAddress

namespace CatalogSite.Url

/-!
# How the host of a web address is spelled

The host of a web address is read without regard to the case of ASCII letters. A domain
name is mapped to small letters, also when a letter is written as a percent sequence, and
the digits of a network address have the same value in either case. Nothing else in front
of the path tells a capital from its small letter either, so that addresses that differ in
nothing but case have one host.
-/

open Text (CaseBlind caseBlind_of_capitals lowerByte)

variable {text : List Char}

/-! ## Domain names -/

theorem hexPair?_lowerByte
    (high low : UInt8) :
    hexPair? (lowerByte high) (lowerByte low) = hexPair? high low := by
  have sameValue
      (byte : UInt8) :
      hexValue? (lowerByte byte) = hexValue? byte := by
    have onBytes :
        ∀ n < 256,
          hexValue? (lowerByte (UInt8.ofNat n)) =
            hexValue? (UInt8.ofNat n) := by
      decide +kernel
    have isByte := onBytes byte.toNat byte.toNat_lt
    rw [UInt8.ofNat_toNat] at isByte
    exact isByte
  rw [hexPair?, hexPair?, sameValue, sameValue]

theorem lowerByte_eq_percent_iff
    {byte : UInt8} :
    lowerByte byte = 37 ↔ byte = 37 := by
  have onBytes :
      ∀ n < 256,
        lowerByte (UInt8.ofNat n) = 37 ↔ UInt8.ofNat n = 37 := by
    decide +kernel
  have isByte := onBytes byte.toNat byte.toNat_lt
  rw [UInt8.ofNat_toNat] at isByte
  exact isByte

/-- Bytes that differ in case only do so when they are decoded, too. -/
theorem percentDecode_map_lowerByte
    (bytes : List UInt8) :
    (percentDecode (bytes.map lowerByte)).map lowerByte =
      (percentDecode bytes).map lowerByte := by
  have lowerPercent : lowerByte 37 = 37 := by
    decide
  have twice
      (byte : UInt8) :
      lowerByte (lowerByte byte) = lowerByte byte := by
    have onBytes :
        ∀ n < 256,
          lowerByte (lowerByte (UInt8.ofNat n)) =
            lowerByte (UInt8.ofNat n) := by
      decide +kernel
    have isByte := onBytes byte.toNat byte.toNat_lt
    rw [UInt8.ofNat_toNat] at isByte
    exact isByte
  fun_induction percentDecode bytes with
  | case1 high low rest byte isPair inductionHypothesis =>
      rw [List.map_cons, List.map_cons, List.map_cons, lowerPercent,
        percentDecode, hexPair?_lowerByte, isPair]
      simp only [List.map_cons, inductionHypothesis]
  | case2 high low rest noPair inductionHypothesis =>
      rw [List.map_cons, List.map_cons, List.map_cons, lowerPercent,
        percentDecode, hexPair?_lowerByte, noPair]
      rw [List.map_cons, List.map_cons] at inductionHypothesis
      simp only [List.map_cons, inductionHypothesis]
  | case3 byte rest notSequence inductionHypothesis =>
      have lowerNotSequence :
          ∀ high low others,
            lowerByte byte = 37 →
              rest.map lowerByte = high :: low :: others → False := by
        intro high low others isPercent shape
        rcases rest with _ | ⟨first, _ | ⟨second, more⟩⟩
        · cases shape
        · cases shape
        · exact
            notSequence first second more
              (lowerByte_eq_percent_iff.mp isPercent) rfl
      rw [List.map_cons, percentDecode]
      · rw [List.map_cons, List.map_cons, inductionHypothesis, twice]
      · exact lowerNotSequence
  | case4 =>
      rfl

/-- The characters of a domain name count in small letters. -/
theorem normalizeDomain?_map_toLower
    (domain : List Char) :
    normalizeDomain? (domain.map Char.toLower) =
      normalizeDomain? domain := by
  have asciiBlind : CaseBlind (fun c => decide (c.toNat < 0x80)) :=
    caseBlind_of_capitals (by decide)
  have sameAscii : isAscii (domain.map Char.toLower) = isAscii domain :=
    asciiBlind.all_map domain
  have twice : CaseBlind Char.toLower :=
    caseBlind_of_capitals (by decide)
  have sameChar : CaseBlind mapDomainChar? :=
    caseBlind_of_capitals (by decide)
  rw [normalizeDomain?, normalizeDomain?, sameAscii, List.map_map,
    twice.comp_toLower, mapDomain?, mapDomain?, List.mapM_map,
    sameChar.comp_toLower]

theorem domainToAscii?_map_toLower
    (domain : List Char) :
    domainToAscii? (domain.map Char.toLower) = domainToAscii? domain := by
  rw [domainToAscii?, domainToAscii?, normalizeDomain?_map_toLower]

/-- The domain that a text stands for, as far as it stands for one. -/
theorem domain_of_text_map_toLower
    (text : List Char) :
    (Text.decode?
        (percentDecode (Text.utf8 (text.map Char.toLower)))).bind
          domainToAscii? =
      (Text.decode? (percentDecode (Text.utf8 text))).bind
        domainToAscii? := by
  have sameDomain
      (bytes : List UInt8) :
      (Text.decode? (bytes.map lowerByte)).bind domainToAscii? =
        (Text.decode? bytes).bind domainToAscii? := by
    rw [Text.decode?_map_lowerByte]
    cases Text.decode? bytes with
    | none =>
        rfl
    | some domain =>
        exact domainToAscii?_map_toLower domain
  rw [← sameDomain, Text.utf8_map_toLower, percentDecode_map_lowerByte,
    sameDomain]

/-! ## Network addresses -/

/-- The digits above nine are letters, and have one value in either case. -/
theorem caseBlind_digitInBase?
    (base : Nat) :
    CaseBlind (digitInBase? base) := by
  intro c
  rcases Text.mem_asciiCapitals_or_toLower_eq c with isCapital | same
  · have onCapitals :
        (Text.asciiCapitals.all fun c =>
          c.toLower.toNat = c.toNat + 32 ∧ 65 ≤ c.toNat ∧
            c.toNat ≤ 90) = true := by
      decide
    obtain ⟨isSmall, atLeast, atMost⟩ :=
      of_decide_eq_true (List.all_eq_true.mp onCapitals c isCapital)
    clear onCapitals
    unfold digitInBase?
    rw [isSmall]
    grind
  · rw [same]

theorem numberInBase?_map_toLower
    (base : Nat)
    (digits : List Char) :
    numberInBase? base (digits.map Char.toLower) =
      numberInBase? base digits := by
  simp only [numberInBase?, List.foldl_map, caseBlind_digitInBase? base _]

theorem decimalByte?_map_toLower
    (text : List Char) :
    decimalByte? (text.map Char.toLower) = decimalByte? text := by
  rcases text with _ | ⟨c, rest⟩
  · rfl
  · by_cases isZero : c = '0'
    · subst isZero
      cases rest <;> rfl
    · have notZero : c.toLower ≠ '0' :=
        mt (Text.toLower_eq_iff (by decide)).mp isZero
      have sameNumber := numberInBase?_map_toLower 10 (c :: rest)
      rw [List.map_cons] at sameNumber ⊢
      simp [decimalByte?, isZero, notZero, sameNumber]

theorem dottedIpv4?_map_toLower
    (text : List Char) :
    dottedIpv4? (text.map Char.toLower) = dottedIpv4? text := by
  have dotBlind : CaseBlind (· == '.') :=
    caseBlind_of_capitals (by decide)
  have sameBytes :
      decimalByte? ∘ List.map Char.toLower = decimalByte? :=
    funext decimalByte?_map_toLower
  rw [dottedIpv4?, dottedIpv4?, dotBlind.splitOnP_map, List.map_map,
    sameBytes]

theorem contains_dot_map_toLower
    (text : List Char) :
    (text.map Char.toLower).contains '.' = text.contains '.' := by
  have dotBlind : CaseBlind ('.' == ·) :=
    caseBlind_of_capitals (by decide)
  rw [List.contains_eq_any_beq, List.contains_eq_any_beq, List.any_map,
    dotBlind.comp_toLower]

theorem ipv6Piece?_map_toLower
    (text : List Char) :
    ipv6Piece? (text.map Char.toLower) = ipv6Piece? text := by
  rw [ipv6Piece?, ipv6Piece?, List.isEmpty_map, List.length_map,
    numberInBase?_map_toLower]

theorem ipv6Pieces?_map_toLower
    (pieces : List (List Char)) :
    ipv6Pieces? (pieces.map (List.map Char.toLower)) =
      ipv6Pieces? pieces := by
  fun_induction ipv6Pieces? pieces with
  | case1 => rfl
  | case2 last hasDot =>
      rw [List.map_singleton, ipv6Pieces?, contains_dot_map_toLower,
        if_pos hasDot, dottedIpv4?_map_toLower]
  | case3 last noDot =>
      rw [List.map_singleton, ipv6Pieces?, contains_dot_map_toLower,
        if_neg noDot, ipv6Piece?_map_toLower]
  | case4 piece rest notLast inductionHypothesis =>
      rw [List.map_cons, ipv6Pieces?, inductionHypothesis,
        ipv6Piece?_map_toLower]
      simpa using notLast

theorem ipv6Side?_map_toLower
    (text : List Char) :
    ipv6Side? (text.map Char.toLower) = ipv6Side? text := by
  have colonBlind : CaseBlind (· == ':') :=
    caseBlind_of_capitals (by decide)
  rw [ipv6Side?, ipv6Side?, List.isEmpty_map, colonBlind.splitOnP_map,
    ipv6Pieces?_map_toLower]

theorem splitDoubleColon_map_toLower
    (text : List Char) :
    splitDoubleColon (text.map Char.toLower) =
      (splitDoubleColon text).map
        (Prod.map (List.map Char.toLower) (List.map Char.toLower)) := by
  have isColonIff
      {c : Char} :
      c.toLower = ':' ↔ c = ':' :=
    Text.toLower_eq_iff (by decide)
  fun_induction splitDoubleColon text with
  | case1 rest =>
      rfl
  | case2 c rest notDouble inductionHypothesis =>
      have lowerNotDouble :
          ∀ others,
            c.toLower = ':' →
              rest.map Char.toLower = ':' :: others → False := by
        intro others isColon shape
        rcases rest with _ | ⟨second, more⟩
        · cases shape
        · have secondIsColon : second.toLower = ':' :=
            (List.cons.inj shape).1
          exact notDouble more (isColonIff.mp isColon)
            (by rw [isColonIff.mp secondIsColon])
      rw [List.map_cons, splitDoubleColon]
      · rw [inductionHypothesis]
        cases splitDoubleColon rest <;> rfl
      · exact lowerNotDouble
  | case3 =>
      rfl

theorem parseIpv6_map_toLower
    (text : List Char) :
    parseIpv6 (text.map Char.toLower) = parseIpv6 text := by
  have sameAddress : ipv6? (text.map Char.toLower) = ipv6? text := by
    rw [ipv6?, ipv6?, splitDoubleColon_map_toLower]
    cases splitDoubleColon text with
    | none =>
        simp only [Option.map_none, ipv6Side?_map_toLower]
    | some sides =>
        simp only [Option.map_some, Prod.map, ipv6Side?_map_toLower,
          contains_dot_map_toLower]
  rw [parseIpv6, parseIpv6, sameAddress]

/-! ## Hosts -/

theorem parseSpecialHost_map_toLower
    (text : List Char) :
    parseSpecialHost (text.map Char.toLower) = parseSpecialHost text := by
  have sameMark
      {mark : Char}
      (noLetter :
        (Text.asciiCapitals.all fun c =>
          c ≠ mark ∧ c.toLower ≠ mark) = true)
      (found : Option Char) :
      found.map Char.toLower = some mark ↔ found = some mark := by
    cases found with
    | none =>
        simp
    | some c =>
        simp [Text.toLower_eq_iff noLetter]
  have sameOpen :
      (text.map Char.toLower).head? = some '[' ↔
        text.head? = some '[' := by
    rw [List.head?_map, sameMark (by decide)]
  have sameClose :
      (text.map Char.toLower).getLast? = some ']' ↔
        text.getLast? = some ']' := by
    rw [List.getLast?_map, sameMark (by decide)]
  have sameInside :
      ((text.map Char.toLower).drop 1).dropLast =
        ((text.drop 1).dropLast).map Char.toLower := by
    rw [← List.map_drop, List.map_dropLast]
  simp only [parseSpecialHost, parseBracketed, sameOpen, sameClose,
    sameInside, parseIpv6_map_toLower, domain_of_text_map_toLower]

/-! ## Authorities -/

theorem splitUserinfo_map_toLower
    (text : List Char) :
    (splitUserinfo (text.map Char.toLower)).2 =
      (splitUserinfo text).2.map Char.toLower := by
  have markBlind : CaseBlind (fun c => decide (c ≠ '@')) :=
    caseBlind_of_capitals (by decide)
  unfold splitUserinfo
  simp only [← List.map_reverse, markBlind.takeWhile_map, List.length_map]
  split <;> rfl

theorem splitHost_map_toLower
    (insideBrackets : Bool)
    (text : List Char) :
    splitHost insideBrackets (text.map Char.toLower) =
      ((splitHost insideBrackets text).1.map Char.toLower,
        (splitHost insideBrackets text).2.map Char.toLower) := by
  have isColon
      (c : Char) :
      c.toLower = ':' ↔ c = ':' :=
    Text.toLower_eq_iff (by decide)
  have isOpen
      (c : Char) :
      c.toLower = '[' ↔ c = '[' :=
    Text.toLower_eq_iff (by decide)
  have isClose
      (c : Char) :
      c.toLower = ']' ↔ c = ']' :=
    Text.toLower_eq_iff (by decide)
  induction text generalizing insideBrackets with
  | nil =>
      rfl
  | cons c rest inductionHypothesis =>
      simp only [List.map_cons, splitHost, inductionHypothesis,
        isColon, isOpen, isClose]
      split <;> rfl

/-- A port is read from digits only, of which none is a letter. -/
theorem parsePort_map_toLower
    (scheme text : List Char) :
    parsePort scheme (text.map Char.toLower) = parsePort scheme text := by
  have digitBlind : CaseBlind Char.isDigit :=
    caseBlind_of_capitals (by decide)
  rw [parsePort, parsePort, digitBlind.all_map]
  by_cases allDigits : text.all Char.isDigit = true
  · have noCapital :
        (Text.asciiCapitals.all fun c => !c.isDigit) = true := by
      decide
    have unchanged : ∀ c ∈ text, c.toLower = id c := by
      intro c member
      rcases Text.mem_asciiCapitals_or_toLower_eq c with isCapital | same
      · have noDigit := List.all_eq_true.mp noCapital c isCapital
        rw [List.all_eq_true.mp allDigits c member] at noDigit
        cases noDigit
      · exact same
    rw [List.map_congr_left unchanged, List.map_id]
  · rw [if_neg allDigits, if_neg allDigits]

theorem host_of_readAuthority_map_toLower
    (scheme text : List Char) :
    (readAuthority scheme (text.map Char.toLower)).map Authority.host =
      (readAuthority scheme text).map Authority.host := by
  unfold readAuthority
  simp only [splitUserinfo_map_toLower, splitHost_map_toLower,
    List.isEmpty_map, parseSpecialHost_map_toLower, ← List.map_drop,
    parsePort_map_toLower]
  rcases splitUserinfo text with ⟨userinfo, server⟩
  rcases splitHost false server with ⟨hostText, portion⟩
  dsimp only
  split
  · rfl
  · cases parseSpecialHost hostText with
    | error cause =>
        rfl
    | ok host =>
        cases parsePort scheme (portion.drop 1) <;> rfl

/-! ## Addresses -/

theorem counted_map_toLower
    (text : List Char) :
    counted (text.map Char.toLower) = (counted text).map Char.toLower := by
  have edgeBlind : CaseBlind (fun c => decide (c.toNat ≤ 0x20)) :=
    caseBlind_of_capitals (by decide)
  have keptBlind : CaseBlind isKept :=
    caseBlind_of_capitals (by decide)
  rw [counted, edgeBlind.dropEndWhile_map, keptBlind.filter_map, counted]

/-- The part of a text behind the scheme that is read as an authority. -/
def authorityPart
    (text : List Char) :
    List Char :=
  ((counted text).dropWhile SchemeKind.web.isSlash).takeWhile inAuthority

theorem authorityPart_map_toLower
    (text : List Char) :
    authorityPart (text.map Char.toLower) =
      (authorityPart text).map Char.toLower := by
  have slashBlind : CaseBlind SchemeKind.web.isSlash :=
    caseBlind_of_capitals (by decide)
  have endBlind : CaseBlind inAuthority :=
    caseBlind_of_capitals (by decide)
  rw [authorityPart, counted_map_toLower, slashBlind.dropWhile_map,
    endBlind.takeWhile_map, authorityPart]

/-- The host of an address is the host of its authority, unless this is empty. -/
theorem map_host?_parse
    (text : String) :
    (parse ("http:" ++ text)).map host? =
      ((readAuthority "http".toList (authorityPart text.toList)).map
        Authority.host).map
          (fun host => if host = .empty then none else some host) := by
  rw [parse_http, parseAfterSlashes_web]
  change
    Except.map host? (Except.map _
      (readAuthority _ (authorityPart text.toList))) = _
  cases readAuthority "http".toList (authorityPart text.toList) with
  | error cause =>
      rfl
  | ok authority =>
      rcases authority with ⟨username, password, host, port⟩
      cases host <;> rfl

/-- Addresses that are equal up to the case of ASCII letters have one host, if any. -/
theorem host?_of_parse_congr
    {first second : String}
    (same : Text.equalsIgnoringAsciiCase first second = true) :
    (parse ("http:" ++ first)).map host? =
      (parse ("http:" ++ second)).map host? := by
  have sameChars :
      first.toList.map Char.toLower = second.toList.map Char.toLower := by
    simpa [Text.equalsIgnoringAsciiCase] using same
  have samePart :
      (authorityPart first.toList).map Char.toLower =
        (authorityPart second.toList).map Char.toLower := by
    rw [← authorityPart_map_toLower, sameChars,
      authorityPart_map_toLower]
  rw [map_host?_parse, map_host?_parse,
    ← host_of_readAuthority_map_toLower, samePart,
    host_of_readAuthority_map_toLower]

/-! ## Texts of hosts -/

/-- What holds of every digit of a base holds of every character of a number. -/
theorem forall_mem_toDigits
    {base : Nat}
    {test : Char → Bool}
    (isBase : 1 < base)
    (digits : ∀ digit < base, test digit.digitChar = true)
    (n : Nat) :
    ∀ c ∈ Nat.toDigits base n, test c = true := by
  induction n using Nat.strongRecOn with
  | ind n inductionHypothesis =>
      by_cases small : n < base
      · rw [Nat.toDigits_of_lt_base small]
        exact List.forall_mem_singleton.mpr (digits n small)
      · have notSmall : base ≤ n := Nat.le_of_not_lt small
        have less : n / base < n :=
          Nat.div_lt_self (by omega) isBase
        rw [Nat.toDigits_of_base_le isBase notSmall]
        intro c member
        rcases List.mem_append.mp member with inFront | isLast
        · exact inductionHypothesis (n / base) less c inFront
        · rw [List.mem_singleton.mp isLast]
          exact digits (n % base) (Nat.mod_lt n (by omega))

theorem inAuthority_of_mem_ipv4Text
    (address : Nat) :
    ∀ c ∈ ipv4Text address, inAuthority c = true := by
  have inByte
      (n : Nat) :
      ∀ c ∈ Number.natText n, inAuthority c = true :=
    forall_mem_toDigits (by decide) (by decide) n
  have dot : inAuthority '.' = true := by
    decide
  simp only [ipv4Text, List.forall_mem_append, List.forall_mem_cons]
  exact ⟨inByte _, dot, inByte _, dot, inByte _, dot, inByte _⟩

theorem inAuthority_of_mem_piecesText
    (pieces : List Nat) :
    ∀ c ∈ piecesText pieces, inAuthority c = true := by
  have inPiece
      (n : Nat) :
      ∀ c ∈ pieceText n, inAuthority c = true :=
    forall_mem_toDigits (by decide) (by decide) n
  induction pieces with
  | nil =>
      exact List.forall_mem_nil _
  | cons piece rest inductionHypothesis =>
      cases rest with
      | nil =>
          simpa [piecesText] using inPiece piece
      | cons second others =>
          have shape :
              piecesText (piece :: second :: others) =
                pieceText piece ++
                  ':' :: piecesText (second :: others) := by
            simp [piecesText, List.intercalate]
          simp only [shape, List.forall_mem_append, List.forall_mem_cons]
          exact ⟨inPiece piece, by decide, inductionHypothesis⟩

theorem inAuthority_of_mem_ipv6Text
    (pieces : List Nat) :
    ∀ c ∈ ipv6Text pieces, inAuthority c = true := by
  unfold ipv6Text
  split
  · exact inAuthority_of_mem_piecesText pieces
  · simp only [List.forall_mem_append, List.forall_mem_cons]
    exact
      ⟨inAuthority_of_mem_piecesText _, by decide, by decide,
        inAuthority_of_mem_piecesText _⟩

theorem inAuthority_of_mem_domain
    {source domain : List Char}
    (isAscii : domainToAscii? source = some domain) :
    ∀ c ∈ domain, inAuthority c = true := by
  simp only [domainToAscii?, Option.bind_eq_bind, Option.bind_eq_some_iff]
    at isAscii
  obtain ⟨normal, -, labels, -, allowed⟩ := isAscii
  split at allowed
  · cases allowed
  · rename_i noneForbidden
    cases allowed
    rw [Bool.or_eq_true, not_or, Bool.not_eq_true, List.any_eq_false]
      at noneForbidden
    intro c member
    have notForbidden := noneForbidden.1 c member
    rw [inAuthority, Bool.not_eq_true', Bool.eq_false_iff]
    intro ends
    simp only [SchemeKind.endsAuthority, SchemeKind.isSlash,
      Bool.or_eq_true, Bool.and_eq_true, beq_iff_eq] at ends
    rcases ends with ((rfl | ⟨-, rfl⟩) | rfl) | rfl
    all_goals
      revert notForbidden
      decide

/-- The text of a host that was read does not end an authority. -/
theorem inAuthority_of_mem_chars
    {text : List Char}
    {host : Host}
    (reads : parseSpecialHost text = .ok host) :
    ∀ c ∈ host.chars, inAuthority c = true := by
  rcases parseSpecialHost_cases reads with
    ⟨pieces, rfl⟩ | ⟨domain, isDomain, ⟨address, rfl⟩ | rfl⟩
  · simp only [Host.chars, List.forall_mem_cons, List.forall_mem_append]
    exact
      ⟨by decide, inAuthority_of_mem_ipv6Text pieces, by decide,
        List.forall_mem_nil _⟩
  · exact inAuthority_of_mem_ipv4Text address
  · obtain ⟨source, -, isAscii⟩ := Option.bind_eq_some_iff.mp isDomain
    exact inAuthority_of_mem_domain isAscii

end CatalogSite.Url
