import CatalogSite.Proofs.Cookie.Header
import CatalogSite.Proofs.Site.Faultless
import CatalogSite.Proofs.Site.Loaded
import CatalogSite.Proofs.Site.Outcomes

namespace CatalogSite

/-!
# Remembered languages

A language chosen in a URL is handed to the browser as a cookie, and the browser hands
it back with its other cookies. The choice then holds until a URL makes another one,
for every code that a cookie can carry at all: one without a semicolon and without
blanks at its ends. A code with a control character never gets into a cookie, since
the field that would set it is left out.

The cookies of a request are a text here. The fields that this text is joined from count
only if they consist of visible ASCII characters, which is no concern of the choice.
-/

namespace Locales

variable {locales : Locales} {url : Url} {cookies : Option String}
  {code : String}

theorem known?_eq_some_iff
    {named : Option String} :
    locales.known? named = some code ↔
      named = some code ∧ locales.isKnown code = true :=
  Option.filter_eq_some_iff

/-- A URL names no language, or first of all one that is not declared. -/
def LeavesOpen
    (locales : Locales)
    (url : Url) : Prop :=
  ∀ code,
    url.queryValue? languageKey = some code →
      locales.isKnown code = false

theorem LeavesOpen.not_named
    (leavesOpen : locales.LeavesOpen url) :
    ¬ (url.queryValue? languageKey = some code ∧
      locales.isKnown code = true) := by
  rintro ⟨named, known⟩
  rw [leavesOpen code named] at known
  cases known

theorem known?_of_leavesOpen
    (leavesOpen : locales.LeavesOpen url) :
    locales.known? (url.queryValue? languageKey) = none := by
  cases known : locales.known? (url.queryValue? languageKey) with
  | none =>
      rfl
  | some code =>
      exact (leavesOpen.not_named (known?_eq_some_iff.mp known)).elim

theorem leavesOpen_of_known?
    (unknown : locales.known? (url.queryValue? languageKey) = none) :
    locales.LeavesOpen url := by
  intro code named
  rw [named] at unknown
  simpa [known?] using unknown

/-- What the choice of a language can be, and what it rests on. -/
inductive Chooses
    (locales : Locales)
    (url : Url)
    (cookies : Option String) :
    LanguageChoice → Prop where
  | byUrl
      {code : String}
      (named : url.queryValue? languageKey = some code)
      (known : locales.isKnown code = true) :
      Chooses locales url cookies ⟨code, true⟩
  | byCookie
      {code : String}
      (leavesOpen : locales.LeavesOpen url)
      (remembered :
        cookies.bind (Cookie.value? · languageKey) = some code)
      (known : locales.isKnown code = true) :
      Chooses locales url cookies ⟨code, false⟩
  | byDefault
      (leavesOpen : locales.LeavesOpen url) :
      Chooses locales url cookies ⟨locales.default, false⟩

theorem chooses_choose
    (locales : Locales)
    (url : Url)
    (cookies : Option String) :
    locales.Chooses url cookies (locales.choose url cookies) := by
  unfold choose
  cases inUrl : locales.known? (url.queryValue? languageKey) with
  | some code =>
      obtain ⟨named, known⟩ := known?_eq_some_iff.mp inUrl
      exact .byUrl named known
  | none =>
      have leavesOpen := leavesOpen_of_known? inUrl
      cases inCookie :
          locales.known?
            (cookies.bind (Cookie.value? · languageKey)) with
      | some code =>
          obtain ⟨remembered, known⟩ := known?_eq_some_iff.mp inCookie
          exact .byCookie leavesOpen remembered known
      | none =>
          exact .byDefault leavesOpen

theorem choose_of_remembered
    (leavesOpen : locales.LeavesOpen url)
    (remembered :
      cookies.bind (Cookie.value? · languageKey) = some code)
    (known : locales.isKnown code = true) :
    locales.choose url cookies = ⟨code, false⟩ := by
  have inCookie :
      locales.known? (cookies.bind (Cookie.value? · languageKey)) =
        some code :=
    known?_eq_some_iff.mpr ⟨remembered, known⟩
  simp only [choose, known?_of_leavesOpen leavesOpen, inCookie]

end Locales

/-- A request whose cookie header holds a pair, wherever in it. -/
inductive ClientRequest.Carries
    (request : ClientRequest)
    (name value : String) : Prop where
  | inHeader
      {header : String}
      {before after : List (List Char)}
      {left right : List Char}
      (present : request.cookies = some header)
      (holds :
        Cookie.Holds header name.toList value.toList before after left
          right)

theorem plainName_languageKey :
    Cookie.PlainName languageKey.toList where
  nonempty := by decide
  undivided := by decide
  unseparated := by decide
  bare := by decide

theorem ClientRequest.Carries.value?_eq
    {request : ClientRequest}
    {code : String}
    (carries : request.Carries languageKey code)
    (plain : Cookie.PlainValue code.toList) :
    request.cookies.bind (Cookie.value? · languageKey) = some code := by
  obtain ⟨present, holds⟩ := carries
  rw [present]
  exact Cookie.value?_of_holds plainName_languageKey plain holds

namespace Site

variable {site : Site} {catalog : Catalog} {tree : FileTree}
  {request : ClientRequest} {code cookie : String}

/--
The answer to a request hands a language over to the browser: it is a success, the URL
names the language first, and the language is known.
-/
structure HandsOver
    (site : Site)
    (request : ClientRequest)
    (response : Response)
    (code : String) : Prop where
  success : response.status = .ok
  chosen :
    ∃ url,
      site.config.admitUrl request.url = .ok url ∧
        url.queryValue? languageKey = some code
  known : site.locales.isKnown code = true
  written :
    response.headers.setCookie = some ("lang=" ++ code ++ "; Path=/")

/--
A language sticks: a request that carries it and whose URL leaves the language open is
resolved to it, and no answer to such a request hands a language over again.
-/
structure Remembers
    (site : Site)
    (code : String) : Prop where
  resolved :
    ∀ (request : ClientRequest) (url : Url),
      site.locales.LeavesOpen url →
        request.Carries languageKey code →
          site.locales.choose url request.cookies = ⟨code, false⟩
  notRepeated :
    ∀ (catalog : Catalog) (tree : FileTree) (request : ClientRequest)
      (url : Url),
      site.config.admitUrl request.url = .ok url →
        site.locales.LeavesOpen url →
          request.Carries languageKey code →
            (site.answer catalog tree request).headers.setCookie = none

theorem persist_of_setCookie
    {choice : LanguageChoice}
    {content : Response}
    (isSet :
      (site.finished choice content).headers.setCookie = some cookie) :
    choice.persist = true ∧
      cookie = "lang=" ++ choice.language ++ "; Path=/" := by
  obtain ⟨language, persist⟩ := choice
  cases persist with
  | false =>
      cases isSet
  | true =>
      have field :
          headerValue? (Cookie.setting languageKey language) =
            some cookie :=
        isSet
      unfold headerValue? at field
      split at field
      · exact ⟨rfl, (Option.some.inj field).symm⟩
      · cases field

theorem exists_handsOver
    (isSet :
      (site.answer catalog tree request).headers.setCookie =
        some cookie) :
    ∃ code,
      site.HandsOver request (site.answer catalog tree request) code := by
  have outcome := answers_answer site catalog tree request
  generalize site.answer catalog tree request = response at isSet outcome
  cases outcome with
  | blocked blocks =>
      cases isSet
  | failed welcome fails =>
      rw [setCookie_errorResponse] at isSet
      cases isSet
  | @finished url target content welcome admitted targeted rendered =>
      obtain ⟨persists, written⟩ := persist_of_setCookie isSet
      have chosen :=
        site.locales.chooses_choose url request.cookies
      generalize site.locales.choose url request.cookies = choice
        at isSet persists written chosen rendered ⊢
      cases chosen with
      | byCookie leavesOpen remembered known =>
          cases persists
      | byDefault leavesOpen =>
          cases persists
      | @byUrl code named known =>
          have success : content.status = .ok :=
            status_of_targetContent rendered
          subst written
          exact
            ⟨code,
              { success := success
                chosen := ⟨url, admitted, named⟩
                known := known
                written := isSet }⟩

theorem remembers_of_known
    (known : site.locales.isKnown code = true)
    (plain : Cookie.PlainValue code.toList) :
    site.Remembers code where
  resolved := by
    intro request url leavesOpen carries
    exact
      Locales.choose_of_remembered leavesOpen (carries.value?_eq plain)
        known
  notRepeated := by
    intro catalog tree request url admitted leavesOpen carries
    cases isSet :
        (site.answer catalog tree request).headers.setCookie with
    | none =>
        rfl
    | some cookie =>
        obtain ⟨code, handsOver⟩ := exists_handsOver isSet
        obtain ⟨again, admittedAgain, named⟩ := handsOver.chosen
        have sameUrl : again = url :=
          Except.ok.inj (admittedAgain.symm.trans admitted)
        rw [sameUrl] at named
        exact (leavesOpen.not_named ⟨named, handsOver.known⟩).elim

/--
A language that an answer hands over sticks, if it is read from a cookie as it is
written. Every choice rests on the URL, on a cookie or on the default, and only one
that rests on the URL is handed over.
-/
theorem language_sticks
    (site : Site) :
    (∀ catalog tree request cookie,
        (site.answer catalog tree request).headers.setCookie =
            some cookie →
          ∃ code,
            site.HandsOver request (site.answer catalog tree request)
                code ∧
              (Cookie.PlainValue code.toList → site.Remembers code)) ∧
      ∀ url cookies,
        let choice := site.locales.choose url cookies
        (site.locales.isKnown choice.language = true ∨
            choice.language = site.locales.default) ∧
          (choice.persist = true ↔
            url.queryValue? languageKey = some choice.language ∧
              site.locales.isKnown choice.language = true) := by
  constructor
  · intro catalog tree request cookie isSet
    obtain ⟨code, handsOver⟩ := exists_handsOver isSet
    exact ⟨code, handsOver, remembers_of_known handsOver.known⟩
  · intro url cookies choice
    have chosen : site.locales.Chooses url cookies choice :=
      site.locales.chooses_choose url cookies
    generalize choice = made at chosen
    cases chosen with
    | byUrl named known =>
        exact ⟨.inl known, fun _ => ⟨named, known⟩, fun _ => rfl⟩
    | byCookie leavesOpen remembered known =>
        refine ⟨.inl known, ?_, ?_⟩
        · intro persists
          cases persists
        · intro named
          exact (leavesOpen.not_named named).elim
    | byDefault leavesOpen =>
        refine ⟨.inr rfl, ?_, ?_⟩
        · intro persists
          cases persists
        · intro named
          exact (leavesOpen.not_named named).elim

/-- French is chosen, and is kept beside other cookies by a URL that names no language. -/
theorem language_sticks_french :
    let catalog := (GameStore.ofGames []).catalog
    let request : ClientRequest :=
      ⟨"", "", "http://[::1]/news?lang=fr", none⟩
    let later : ClientRequest :=
      ⟨"", "", "http://[::1]/search?lang=xx",
        some "theme=dark; broken;  lang=fr ; lang=en"⟩
    (smallSite.answer catalog smallDisk request).headers.setCookie =
        some "lang=fr; Path=/" ∧
      Cookie.PlainValue "fr".toList ∧
      later.Carries languageKey "fr" ∧
      ∃ url,
        smallSite.config.admitUrl later.url = .ok url ∧
          smallSite.locales.LeavesOpen url ∧
          smallSite.locales.choose url later.cookies =
            ⟨"fr", false⟩ ∧
          (smallSite.answer catalog smallDisk later).headers.setCookie =
            none := by
  intro catalog request later
  let laterUrl : Url :=
    { scheme := "http".toList
      authority := some (.ofHost (.ipv6 [0, 0, 0, 0, 0, 0, 0, 1]))
      path := .segments ["search".toList]
      query := some "lang=xx".toList
      fragment := none }
  have isSet :
      (smallSite.answer catalog smallDisk request).headers.setCookie =
        some "lang=fr; Path=/" := by
    decide
  have plain : Cookie.PlainValue "fr".toList :=
    { unseparated := by decide
      bare := by decide }
  have holds :
      Cookie.Holds "theme=dark; broken;  lang=fr ; lang=en"
        languageKey.toList "fr".toList
        ["theme=dark".toList, " broken".toList] [" lang=en".toList]
        [' ', ' '] [' '] :=
    { text := by decide
      leftBlank := List.all_eq_true.mp (by decide)
      rightBlank := List.all_eq_true.mp (by decide)
      separate := by decide
      unnamed := by decide }
  have carries : later.Carries languageKey "fr" :=
    .inHeader rfl holds
  have admitted :
      smallSite.config.admitUrl later.url = .ok laterUrl := by
    apply eq_ok_of_toOption_eq_some
    decide
  have leavesOpen : smallSite.locales.LeavesOpen laterUrl := by
    apply Locales.leavesOpen_of_known?
    decide
  obtain ⟨sticks, -⟩ := language_sticks smallSite
  obtain ⟨code, handsOver, remembers⟩ :=
    sticks catalog smallDisk request "lang=fr; Path=/" isSet
  have isFrench : code = "fr" := by
    have sameText := congrArg String.toList
      (Option.some.inj (handsOver.written.symm.trans isSet))
    rw [String.toList_append, String.toList_append] at sameText
    have sameCode : "lang=".toList ++ code.toList = "lang=fr".toList :=
      List.append_cancel_right sameText
    exact String.toList_inj.mp (List.append_cancel_left sameCode)
  subst isFrench
  have french := remembers plain
  exact
    ⟨isSet, plain, carries, laterUrl, admitted, leavesOpen,
      french.resolved later laterUrl leavesOpen carries,
      french.notRepeated catalog smallDisk later laterUrl admitted
        leavesOpen carries⟩

end Site

end CatalogSite
