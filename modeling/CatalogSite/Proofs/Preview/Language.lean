import CatalogSite.Proofs.Preview.AccessHosts
import CatalogSite.Proofs.Site.Loaded
import CatalogSite.Proofs.Url.FormText

namespace CatalogSite

/-!
# The language of a preview

A preview that is asked for in a language puts the language behind the query of its
target, however the language and the query are written. A request, on the other hand, goes
by the first language that its URL names. The preview is therefore shown in the language
that was asked for as long as the target names no other one itself.
-/

/-- The language that a request without cookies gets by what its URL names first. -/
def Locales.languageNamed
    (locales : Locales)
    (named : String) :
    String :=
  if locales.isKnown named then named else locales.default

namespace Locales

variable {locales : Locales} {language : String} {own : Url}

/-- Without cookies the first language that a URL names decides. -/
theorem language_choose_of_named
    {url : Url}
    {named : String}
    (names : url.queryValue? languageKey = some named) :
    (locales.choose url none).language = locales.languageNamed named := by
  have noCookie :
      locales.known? ((none : Option String).bind
        (Cookie.value? · languageKey)) = none :=
    rfl
  rw [choose, noCookie, names, known?, Option.filter_some, languageNamed]
  cases locales.isKnown named <;> rfl

/-- A language that is appended to a URL decides where the URL names none itself. -/
theorem language_choose_withQueryPair
    (locales : Locales)
    (own : Url)
    (language : String) :
    (locales.choose (own.withQueryPair languageKey language) none).language =
      locales.languageNamed ((own.queryValue? languageKey).getD language) :=
  language_choose_of_named
    (Url.queryValue?_withQueryPair own languageKey language)

/-- A known language is chosen by its own name, and the default one by unknown names too. -/
theorem languageNamed_eq_iff
    (known : locales.isKnown language = true)
    {named : String} :
    locales.languageNamed named = language ↔
      named = language ∨
        (language = locales.default ∧ locales.isKnown named = false) := by
  unfold languageNamed
  cases isKnown : locales.isKnown named with
  | true =>
      simp
  | false =>
      have different : named ≠ language := by
        rintro rfl
        rw [known] at isKnown
        cases isKnown
      simp [different, eq_comm]

end Locales

namespace Preview

variable {config : Config} {target : String}

/-- A preview in a language asks for the address of the preview without one, and appends. -/
theorem address_some
    (config : Config)
    (target language : String) :
    address config target (some language) =
      (address config target none).map
        (·.withQueryPair languageKey language) := by
  unfold address
  cases Url.parse
      ("http://" ++ config.accessHosts.headD "localhost" ++ "/") with
  | error cause =>
      rfl
  | ok base =>
      dsimp only
      cases Url.join base target <;> rfl

/-- A path has an address on every first access host that can be read. -/
theorem exists_address_of_rooted
    {rest : String}
    {base : Url}
    (parses :
      Url.parse
          ("http://" ++ config.accessHosts.headD "localhost" ++ "/") =
        .ok base)
    (single :
      ∀ c, (Url.counted rest.toList).head? = some c →
        Url.SchemeKind.web.isSlash c = false) :
    ∃ own, address config ("/" ++ rest) none = .ok own := by
  obtain ⟨isWeb, names, isPath⟩ := Url.segments_of_parse parses
  obtain ⟨own, first, others, joined, -⟩ :=
    Url.exists_join_of_path isWeb isPath single
  exact ⟨own, by simp only [address, parses, joined]⟩

/--
A preview is shown in the language that is asked for, unless its target names another one.

Let a language be known to a site. A preview of a target in this language has an address
whenever one without a language has, and fails for the same cause otherwise; a path has one
on every first access host that can be read. The address has the query pairs of the target
and behind them the language, whatever characters it is written with. Without a cookie it
is resolved to the language exactly when the target itself names no language, names this
one first, or first names an unknown one while this one is the default.
-/
theorem language_of_address
    {site : Site}
    {language : String}
    (known : site.locales.isKnown language = true)
    (target : String) :
    (∀ rest base,
      target = "/" ++ rest →
        (∀ c, (Url.counted rest.toList).head? = some c →
          Url.SchemeKind.web.isSlash c = false) →
        Url.parse
            ("http://" ++ site.config.accessHosts.headD "localhost" ++
              "/") =
          .ok base →
        ∃ own, address site.config target none = .ok own) ∧
    (∀ failure,
      address site.config target (some language) = .error failure ↔
        address site.config target none = .error failure) ∧
    ∀ own,
      address site.config target none = .ok own →
        ∃ url,
          address site.config target (some language) = .ok url ∧
            url.queryPairs =
              own.queryPairs ++ [(languageKey, language)] ∧
            ((site.locales.choose url none).language = language ↔
              ∀ named,
                own.queryValue? languageKey = some named →
                  named = language ∨
                    (language = site.locales.default ∧
                      site.locales.isKnown named = false)) := by
  refine ⟨?_, ?_, ?_⟩
  · rintro rest base rfl single parses
    exact exists_address_of_rooted parses single
  · intro failure
    rw [address_some]
    cases address site.config target none with
    | error cause =>
        exact Iff.rfl
    | ok own =>
        exact iff_of_false (fun same => by cases same)
          (fun same => by cases same)
  · intro own asks
    refine
      ⟨own.withQueryPair languageKey language, ?_,
        Url.queryPairs_withQueryPair own languageKey language, ?_⟩
    · rw [address_some, asks]
      rfl
    · rw [Locales.language_choose_withQueryPair,
        Locales.languageNamed_eq_iff known]
      cases own.queryValue? languageKey with
      | none =>
          simp
      | some named =>
          simp

/-- The small site on a host that is given by its address. -/
def previewSite : Site :=
  { Site.smallSite with
    config := { Site.smallConfig with accessHosts := ["[::1]"] } }

/-- A target whose query only looks as if it named a language. -/
theorem language_of_address_quoted :
    let target := "/" ++ "news?q=%26lang=en#top"
    ∃ url,
      previewSite.locales.isKnown "fr" = true ∧
        address previewSite.config target (some "fr") = .ok url ∧
        url.text =
          "http://[::1]/news?q=%26lang=en&lang=fr#top" ∧
        (previewSite.locales.choose url none).language = "fr" := by
  intro target
  have known : previewSite.locales.isKnown "fr" = true := by
    decide
  let own : Url :=
    { scheme := "http".toList
      authority := some (.ofHost (.ipv6 [0, 0, 0, 0, 0, 0, 0, 1]))
      path := .segments ["news".toList]
      query := some "q=%26lang=en".toList
      fragment := some "top".toList }
  have asks : address previewSite.config target none = .ok own := by
    apply eq_ok_of_toOption_eq_some
    decide
  have namesNone : own.queryValue? languageKey = none := by
    decide
  obtain ⟨-, -, addresses⟩ := language_of_address known target
  obtain ⟨url, isAddress, -, isResolved⟩ := addresses own asks
  have isUrl : url = own.withQueryPair languageKey "fr" := by
    rw [address_some, asks] at isAddress
    exact (Except.ok.inj isAddress).symm
  have isText :
      url.text = "http://[::1]/news?q=%26lang=en&lang=fr#top" := by
    rw [isUrl]
    decide
  refine ⟨url, known, isAddress, isText, isResolved.mpr ?_⟩
  intro named names
  rw [namesNone] at names
  cases names

/-- A target that names a language of its own is shown in that one. -/
theorem exists_address_in_other_language :
    ∃ url,
      previewSite.locales.isKnown "en" = true ∧
        address previewSite.config "/news?lang=fr" (some "en") =
          .ok url ∧
        url.text = "http://[::1]/news?lang=fr&lang=en" ∧
        (previewSite.locales.choose url none).language = "fr" := by
  let url : Url :=
    { scheme := "http".toList
      authority := some (.ofHost (.ipv6 [0, 0, 0, 0, 0, 0, 0, 1]))
      path := .segments ["news".toList]
      query := some "lang=fr&lang=en".toList
      fragment := none }
  have isAddress :
      address previewSite.config "/news?lang=fr" (some "en") =
        .ok url := by
    apply eq_ok_of_toOption_eq_some
    decide
  have isResolved :
      (previewSite.locales.choose url none).language = "fr" := by
    decide
  exact ⟨url, by decide, isAddress, by decide, isResolved⟩

end Preview

end CatalogSite
