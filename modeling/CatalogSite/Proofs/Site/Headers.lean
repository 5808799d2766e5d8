import CatalogSite.Proofs.Locale.Remembered
import CatalogSite.Proofs.Site.Failing

namespace CatalogSite

/-!
# What the headers of an answer say

Only a success may be cached, and only a success whose language was chosen in the URL
sets a cookie. Pages and not-found errors name the language of the request, provided
that it can stand in a header; endpoints, files, refusals and faults name none. A client
that is turned away gets one and the same answer, whatever it asks for.
-/

/-- A number can stand in a header. -/
theorem isHeaderValue_toString
    (n : Nat) :
    isHeaderValue (toString n) = true := by
  unfold isHeaderValue
  rw [List.all_eq_true]
  intro c member
  rw [Nat.toString_eq_ofList_toDigits, String.toList_ofList] at member
  have isDigit : c.isDigit = true :=
    Nat.isDigit_of_mem_toDigits (by decide) (by decide) member
  obtain ⟨low, high⟩ :
      '0'.toNat ≤ c.toNat ∧ c.toNat ≤ '9'.toNat := by
    simpa [Char.isDigit, UInt32.le_iff_toNat_le] using isDigit
  simp only [Char.reduceToNat] at low high
  have isPrinted : (0x20 ≤ c.toNat ∧ c.toNat ≠ 0x7F) := by
    omega
  simp [isPrinted]

theorem isHeaderValue_append
    (first second : String) :
    isHeaderValue (first ++ second) =
      (isHeaderValue first && isHeaderValue second) := by
  simp [isHeaderValue]

theorem headerValue?_eq_some_iff
    {value field : String} :
    headerValue? value = some field ↔
      isHeaderValue value = true ∧ value = field := by
  unfold headerValue?
  split
  · rename_i valid
    simp [valid]
  · rename_i invalid
    simp [invalid]

namespace Site

variable {site : Site} {catalog : Catalog} {tree : FileTree}
  {request : ClientRequest} {url : Url}

/-- How long a success may be cached can always be said. -/
theorem headerValue?_cacheText
    (site : Site) :
    headerValue? site.cacheText = some site.cacheText := by
  refine headerValue?_eq_some_iff.mpr ⟨?_, rfl⟩
  rw [cacheText, isHeaderValue_append, isHeaderValue_toString]
  decide

/-- The language of a request is chosen by its URL: the first one it names is known. -/
def ChosenInUrl
    (site : Site)
    (request : ClientRequest)
    (code : String) : Prop :=
  ∃ url,
    site.config.admitUrl request.url = .ok url ∧
      url.queryValue? languageKey = some code ∧
      site.locales.isKnown code = true

/-- A request is resolved to a language once its URL is admitted. -/
def ResolvesTo
    (site : Site)
    (request : ClientRequest)
    (language : String) : Prop :=
  ∃ url,
    site.config.admitUrl request.url = .ok url ∧
      language = site.locales.resolved url request.cookies

/-- A request leads to a page. -/
def LeadsToPage
    (site : Site)
    (tree : FileTree)
    (request : ClientRequest) : Prop :=
  ∃ url route,
    site.config.admitUrl request.url = .ok url ∧
      site.target? tree url.routePath = some (.page route)

/--
The headers of an answer to a client that is not turned away, by the status of the answer
and by what the request is.
-/
structure FollowsRequest
    (site : Site)
    (tree : FileTree)
    (request : ClientRequest)
    (response : Response) : Prop where
  /-- A URL that is malformed or on a foreign host is refused, and nothing else is. -/
  refusal :
    response.status.code = 400 ↔ ¬ site.config.Admits request.url
  /-- What language an answer is in is said by pages and by not-found errors. -/
  contentLanguage :
    ∀ language,
      response.headers.contentLanguage = some language ↔
        isHeaderValue language = true ∧
          site.ResolvesTo request language ∧
          (response.status.code = 200 ∧ site.LeadsToPage tree request ∨
            response.status.code = 404)

/--
The headers of any answer, by its status alone and by the URL.

These hold for clients that are turned away too.
-/
structure FollowsStatus
    (site : Site)
    (request : ClientRequest)
    (response : Response) : Prop where
  cacheControl :
    response.headers.cacheControl =
      if response.status.code = 200 then
        some ("max-age=" ++ toString site.config.cacheMaxAge)
      else none
  setCookie :
    ∀ cookie,
      response.headers.setCookie = some cookie ↔
        response.status.code = 200 ∧
          ∃ code,
            site.ChosenInUrl request code ∧
              cookie = "lang=" ++ code ++ "; Path=/" ∧
              isHeaderValue cookie = true
  contentType :
    response.status.code ≠ 200 →
      response.headers.contentType = some "text/html; charset=UTF-8"

theorem chosenInUrl_iff
    (admitted : site.config.admitUrl request.url = .ok url)
    {code : String} :
    site.ChosenInUrl request code ↔
      site.locales.choose url request.cookies = ⟨code, true⟩ := by
  rw [ChosenInUrl, Config.exists_admitted_iff admitted]
  constructor
  · intro named
    simp only [Locales.choose, Locales.known?_eq_some_iff.mpr named]
  · intro chosen
    have reason := site.locales.chooses_choose url request.cookies
    rw [chosen] at reason
    cases reason with
    | byUrl named known =>
        exact ⟨named, known⟩

theorem resolvesTo_iff
    (admitted : site.config.admitUrl request.url = .ok url)
    {language : String} :
    site.ResolvesTo request language ↔
      language = site.locales.resolved url request.cookies :=
  Config.exists_admitted_iff admitted

theorem leadsToPage_iff
    (admitted : site.config.admitUrl request.url = .ok url) :
    site.LeadsToPage tree request ↔
      ∃ route, site.target? tree url.routePath = some (.page route) := by
  simp only [LeadsToPage, exists_and_left]
  exact Config.exists_admitted_iff admitted

theorem code_of_targetContent
    {visit : Visit}
    {target : Target}
    {content : Response}
    (found : targetContent visit tree target = .ok content) :
    content.status.code = 200 := by
  rw [status_of_targetContent found]
  rfl

/-- Of all contents only that of a page names a language. -/
theorem contentLanguage_of_targetContent
    {visit : Visit}
    {target : Target}
    {content : Response}
    (found : targetContent visit tree target = .ok content)
    (language : String) :
    content.headers.contentLanguage = some language ↔
      (∃ route, target = .page route) ∧
        headerValue? visit.language = some language := by
  cases target with
  | endpoint route =>
      obtain ⟨body, -, isContent⟩ := exists_of_bind_eq_ok found
      cases isContent
      simp [Response.ofContent]
  | page route =>
      obtain ⟨body, -, isContent⟩ := exists_of_bind_eq_ok found
      cases isContent
      simp [Response.inLanguage]
  | file path =>
      rw [targetContent] at found
      split at found
      · cases found
        simp [Response.ofContent]
      · cases found

/-! ## The three outcomes -/

theorem followsStatus_html
    {response : Response}
    (unsuccessful : response.status.code ≠ 200)
    (uncached : response.headers.cacheControl = none)
    (cookieless : response.headers.setCookie = none)
    (isHtml :
      response.headers.contentType = headerValue? htmlContentType) :
    site.FollowsStatus request response where
  cacheControl := by
    rw [if_neg unsuccessful, uncached]
  setCookie := by
    simp [cookieless, unsuccessful]
  contentType := by
    intro _
    rw [isHtml]
    decide

theorem followsStatus_finished
    {content : Response}
    (admitted : site.config.admitUrl request.url = .ok url)
    (isOk : content.status.code = 200) :
    site.FollowsStatus request
      (site.finished (site.locales.choose url request.cookies)
        content) where
  cacheControl := by
    simp only [finished, isOk, if_true]
    exact site.headerValue?_cacheText
  setCookie := by
    intro cookie
    simp only [finished, isOk, true_and, chosenInUrl_iff admitted]
    generalize site.locales.choose url request.cookies = choice
    obtain ⟨language, persist⟩ := choice
    cases persist with
    | false =>
        simp
    | true =>
        simp only [if_true, headerValue?_eq_some_iff]
        constructor
        · rintro ⟨valid, rfl⟩
          exact ⟨language, rfl, rfl, valid⟩
        · rintro ⟨code, sameChoice, rfl, valid⟩
          cases sameChoice
          exact ⟨valid, rfl⟩
  contentType := by
    intro unsuccessful
    exact (unsuccessful isOk).elim

theorem followsRequest_finished
    {target : Target}
    {content : Response}
    (admitted : site.config.admitUrl request.url = .ok url)
    (targeted : site.target? tree url.routePath = some target)
    (rendered :
      targetContent
          { site
            catalog
            url
            language :=
              (site.locales.choose url request.cookies).language }
          tree target =
        .ok content) :
    site.FollowsRequest tree request
      (site.finished (site.locales.choose url request.cookies)
        content) where
  refusal := by
    have isOk := code_of_targetContent rendered
    simp [finished, isOk, Config.admits_of_admitUrl admitted]
  contentLanguage := by
    intro language
    have isOk := code_of_targetContent rendered
    have named := contentLanguage_of_targetContent rendered language
    rw [Locales.choose_language, headerValue?_eq_some_iff] at named
    simp only [finished, isOk, named, resolvesTo_iff admitted,
      leadsToPage_iff admitted, targeted, Option.some.injEq, true_and]
    constructor
    · rintro ⟨isPage, valid, rfl⟩
      exact ⟨valid, rfl, .inl isPage⟩
    · rintro ⟨valid, rfl, isPage | impossible⟩
      · exact ⟨isPage, valid, rfl⟩
      · cases impossible

theorem followsStatus_errorResponse
    (site : Site)
    (catalog : Catalog)
    (request : ClientRequest)
    (error : RequestError) :
    site.FollowsStatus request (site.errorResponse catalog error) := by
  have unsuccessful :
      (site.errorResponse catalog error).status.code ≠ 200 := by
    rw [status_errorResponse]
    cases error <;> simp [RequestError.status, Status.code]
  refine
    followsStatus_html unsuccessful ?_
      (setCookie_errorResponse site catalog error) ?_
  all_goals
    cases error <;> rfl

/-- A failure is told in the language of the request if there is nothing for it. -/
theorem followsRequest_errorResponse
    {error : RequestError}
    (fails : site.FailsBy request error)
    (catalog : Catalog)
    (tree : FileTree) :
    site.FollowsRequest tree request
      (site.errorResponse catalog error) where
  refusal := by
    rw [status_errorResponse]
    cases fails with
    | refusal refused =>
        simp [RequestError.status, Status.code, refused]
    | nothing admitted =>
        simp [RequestError.status, Status.code,
          Config.admits_of_admitUrl admitted]
    | fault admitted =>
        simp [RequestError.status, Status.code,
          Config.admits_of_admitUrl admitted]
  contentLanguage := by
    intro language
    rw [status_errorResponse]
    cases fails with
    | refusal refused =>
        simp [errorResponse, Response.html, RequestError.status,
          Status.code]
    | nothing admitted =>
        simp only [errorResponse, Response.inLanguage,
          headerValue?_eq_some_iff, resolvesTo_iff admitted,
          RequestError.status, Status.code, or_true, and_true]
        constructor
        · rintro ⟨valid, rfl⟩
          exact ⟨valid, rfl⟩
        · rintro ⟨valid, rfl⟩
          exact ⟨valid, rfl⟩
    | fault admitted =>
        simp [errorResponse, Response.html, RequestError.status,
          Status.code]

theorem followsStatus_blockedResponse
    (site : Site)
    (request : ClientRequest) :
    site.FollowsStatus request site.blockedResponse :=
  followsStatus_html
    (by simp [blockedResponse, Response.html, Status.code]) rfl rfl rfl

theorem answer_of_blocks
    (blocks :
      site.config.blocks request.address request.userAgent = true)
    (catalog : Catalog)
    (tree : FileTree) :
    site.answer catalog tree request = site.blockedResponse := by
  rw [answer, if_pos blocks]

/--
The contract of every answer of a site.

A client that is turned away gets a not-found answer without a language, the same one for
every URL, even a malformed one, and for every cookie, catalog and disk. Any other request
is refused exactly when its URL is not admitted, and is told the language of what it gets.
Whether an answer may be cached, sets a cookie or is a page of errors goes by its status.
-/
theorem answer_follows
    (site : Site) :
    (∀ catalog tree request,
      site.FollowsStatus request (site.answer catalog tree request)) ∧
    (∀ catalog tree request,
      site.config.blocks request.address request.userAgent = false →
      site.FollowsRequest tree request
        (site.answer catalog tree request)) ∧
    ∀ catalog tree request,
      site.config.blocks request.address request.userAgent = true →
      (site.answer catalog tree request).status.code = 404 ∧
        (site.answer catalog tree request).headers.contentLanguage =
          none ∧
        ∀ otherCatalog otherTree (other : ClientRequest),
          site.config.blocks other.address other.userAgent = true →
          site.answer otherCatalog otherTree other =
            site.answer catalog tree request := by
  refine ⟨?_, ?_, ?_⟩
  · intro catalog tree request
    have outcome := answers_answer site catalog tree request
    generalize site.answer catalog tree request = response at outcome ⊢
    cases outcome with
    | blocked blocks =>
        exact site.followsStatus_blockedResponse request
    | finished welcome admitted targeted rendered =>
        exact
          followsStatus_finished admitted
            (code_of_targetContent rendered)
    | failed welcome fails =>
        exact site.followsStatus_errorResponse catalog request _
  · intro catalog tree request welcome
    have outcome := answers_answer site catalog tree request
    generalize site.answer catalog tree request = response at outcome ⊢
    cases outcome with
    | blocked blocks =>
        rw [welcome] at blocks
        cases blocks
    | finished _ admitted targeted rendered =>
        exact followsRequest_finished admitted targeted rendered
    | failed _ fails =>
        exact
          followsRequest_errorResponse (failsBy_of_respond fails) catalog
            tree
  · intro catalog tree request blocks
    rw [answer_of_blocks blocks]
    refine ⟨rfl, rfl, ?_⟩
    intro otherCatalog otherTree other otherBlocks
    exact answer_of_blocks otherBlocks otherCatalog otherTree

/--
A client that is turned away learns nothing about a page, and a welcome one is told the
language that it chose.
-/
theorem answer_follows_french :
    let site : Site :=
      { smallSite with
        config := { smallConfig with blockedUAs := ["bot"] } }
    let catalog := (GameStore.ofGames []).catalog
    let lost : ClientRequest := ⟨"", "bot", "://", none⟩
    let turnedAway : ClientRequest :=
      ⟨"", "a robot", "http://[::1]/news?lang=fr", some "lang=fr"⟩
    let welcome : ClientRequest :=
      ⟨"", "", "http://[::1]/news?lang=fr", none⟩
    site.config.blocks lost.address lost.userAgent = true ∧
      site.config.blocks turnedAway.address turnedAway.userAgent =
        true ∧
      site.answer catalog smallDisk turnedAway =
        site.answer catalog .empty lost ∧
      site.config.blocks welcome.address welcome.userAgent = false ∧
      (site.answer catalog smallDisk welcome).headers.contentLanguage =
        some "fr" ∧
      (site.answer catalog smallDisk welcome).headers.setCookie =
        some "lang=fr; Path=/" := by
  intro site catalog lost turnedAway welcome
  let url : Url :=
    { scheme := "http".toList
      authority := some (.ofHost (.ipv6 [0, 0, 0, 0, 0, 0, 0, 1]))
      path := .segments ["news".toList]
      query := some "lang=fr".toList
      fragment := none }
  have lostBlocked :
      site.config.blocks lost.address lost.userAgent = true := by
    decide
  have alsoBlocked :
      site.config.blocks turnedAway.address turnedAway.userAgent =
        true := by
    decide
  have isWelcome :
      site.config.blocks welcome.address welcome.userAgent = false := by
    decide
  have admitted : site.config.admitUrl welcome.url = .ok url := by
    apply eq_ok_of_toOption_eq_some
    decide
  have success :
      (site.answer catalog smallDisk welcome).status.code = 200 := by
    decide
  have resolves : site.ResolvesTo welcome "fr" :=
    ⟨url, admitted, by decide⟩
  have leads : site.LeadsToPage smallDisk welcome :=
    ⟨url, ⟨newsPage, false⟩, admitted, by decide⟩
  have chosen : site.ChosenInUrl welcome "fr" :=
    ⟨url, admitted, by decide, by decide⟩
  obtain ⟨byStatus, byRequest, blocked⟩ := answer_follows site
  obtain ⟨-, -, same⟩ := blocked catalog .empty lost lostBlocked
  have follows := byRequest catalog smallDisk welcome isWelcome
  have cookie :=
    (byStatus catalog smallDisk welcome).setCookie "lang=fr; Path=/"
  exact
    ⟨lostBlocked, alsoBlocked,
      same catalog smallDisk turnedAway alsoBlocked, isWelcome,
      (follows.contentLanguage "fr").mpr
        ⟨by decide, resolves, .inl ⟨success, leads⟩⟩,
      cookie.mpr ⟨success, "fr", chosen, rfl, by decide⟩⟩

end Site

end CatalogSite
