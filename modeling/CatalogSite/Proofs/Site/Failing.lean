import CatalogSite.Proofs.Site.NothingFound
import CatalogSite.Proofs.Site.Outcomes

namespace CatalogSite

/-!
# How a request can fail

A request is refused only because its URL is not admitted. Once there is a visit, all
that can happen is that there is nothing for it, which is told in the language of the
visit, or that the site is at fault. Nothing is asked of the site here: templates,
fragments and handlers may be missing, and the catalog may fail.
-/

/-- How a computation for a visit can end. -/
inductive Visit.Ends
    {α : Type}
    (visit : Visit) :
    Except RequestError α → Prop where
  | ok
      (value : α) :
      visit.Ends (.ok value)
  | nothing :
      visit.Ends (.error visit.notFound)
  | fault
      (fault : Fault) :
      visit.Ends (.error (.internal fault))

namespace Visit

variable {α β : Type} {visit : Visit}

theorem Ends.bind
    {first : Except RequestError α}
    {next : α → Except RequestError β}
    (firstEnds : visit.Ends first)
    (nextEnds : ∀ value, visit.Ends (next value)) :
    visit.Ends (first >>= next) := by
  cases firstEnds with
  | ok value =>
      exact nextEnds value
  | nothing =>
      exact .nothing
  | fault fault =>
      exact .fault fault

theorem ends_lift
    (visit : Visit)
    (result : Except CatalogError α) :
    visit.Ends (Catalog.lift result) := by
  cases result with
  | ok value =>
      exact .ok value
  | error cause =>
      exact .fault (.catalog cause)

theorem ends_fragment
    (visit : Visit)
    (site : Site)
    (name : String) :
    visit.Ends (SearchPage.fragment site name) := by
  unfold SearchPage.fragment
  split
  · exact .ok _
  · exact .fault _

theorem ends_mainTemplate
    (visit : Visit)
    (name : String) :
    visit.Ends (visit.site.mainTemplate name) := by
  unfold Site.mainTemplate
  split
  · exact .ok _
  · exact .fault _

theorem ends_searchResults
    (visit : Visit)
    (definitions : Definitions) :
    visit.Ends (SearchPage.results visit definitions) := by
  unfold SearchPage.results
  split
  · exact .ok _
  · refine (visit.ends_lift _).bind fun games => ?_
    unfold SearchPage.navigation
    split
    · exact .ok _
    · exact (visit.ends_fragment _ _).bind fun _ =>
        (visit.ends_fragment _ _).bind fun _ => .ok _

theorem ends_game
    (visit : Visit) :
    visit.Ends (GamePage.provide visit) := by
  unfold GamePage.provide
  split
  · exact .nothing
  · refine (visit.ends_lift _).bind fun found => ?_
    cases found with
    | none =>
        exact .nothing
    | some game =>
        exact .ok _

theorem ends_provide
    (visit : Visit)
    (handler : Handler)
    (translations : Definitions) :
    visit.Ends (handler.provide visit translations) := by
  cases handler with
  | search =>
      exact (visit.ends_fragment _ _).bind fun _ =>
        (visit.ends_searchResults translations).bind fun _ => .ok _
  | view =>
      exact visit.ends_game
  | searchInfo =>
      exact .ok _
  | plain =>
      exact .ok _

theorem ends_definitions
    (visit : Visit)
    (name : String) :
    visit.Ends (visit.definitions name) :=
  (visit.ends_provide _ _).bind fun _ => .ok _

theorem ends_renderPage
    (visit : Visit)
    (page : Page) :
    visit.Ends (visit.renderPage page) :=
  (visit.ends_definitions _).bind fun _ =>
    (visit.ends_mainTemplate _).bind fun _ =>
      (visit.ends_definitions _).bind fun _ =>
        (visit.ends_mainTemplate _).bind fun _ => .ok _

theorem ends_respond
    (visit : Visit)
    (handler : Handler) :
    visit.Ends (handler.respond visit) := by
  unfold Handler.respond
  split
  · exact .ok _
  · exact .fault _

/-- The content of a target is there, is missing for the visit, or cannot be made. -/
theorem ends_targetContent
    (visit : Visit)
    (tree : FileTree)
    (target : Target) :
    visit.Ends (Site.targetContent visit tree target) := by
  cases target with
  | endpoint route =>
      exact (visit.ends_respond _).bind fun _ => .ok _
  | page route =>
      exact (visit.ends_renderPage _).bind fun _ => .ok _
  | file path =>
      rw [Site.targetContent]
      split
      · exact .ok _
      · exact .fault _

end Visit

namespace Config

variable {config : Config} {text : String}

/-- A text is a URL, on an allowed host if only some are allowed. -/
def Admits
    (config : Config)
    (text : String) : Prop :=
  ∃ url,
    Url.parse text = .ok url ∧
      (config.accessHosts = [] ∨
        url.hostText?.getD "" ∈ config.accessHosts)

theorem allowsHost_iff
    {host : String} :
    config.allowsHost host = true ↔
      config.accessHosts = [] ∨ host ∈ config.accessHosts := by
  simp [allowsHost]

/-- A text that is a URL is admitted or refused by its host. -/
theorem admitUrl_of_parse
    {url : Url}
    (parses : Url.parse text = .ok url) :
    config.admitUrl text =
      if config.allowsHost (url.hostText?.getD "") then .ok url
      else
        .error (.refused (.disallowedHost (url.hostText?.getD ""))) := by
  rw [admitUrl, parses]

theorem admitUrl_eq_ok_iff
    {url : Url} :
    config.admitUrl text = .ok url ↔
      Url.parse text = .ok url ∧
        config.allowsHost (url.hostText?.getD "") = true := by
  cases parses : Url.parse text with
  | error cause =>
      simp [admitUrl, parses]
  | ok parsed =>
      rw [admitUrl_of_parse parses]
      constructor
      · intro admitted
        split at admitted
        · rename_i allowed
          cases admitted
          exact ⟨rfl, allowed⟩
        · cases admitted
      · rintro ⟨same, allowed⟩
        cases same
        exact if_pos allowed

/-- What is not admitted is refused, for whatever reason. -/
theorem admitUrl_cases
    (config : Config)
    (text : String) :
    (∃ url, config.admitUrl text = .ok url ∧ config.Admits text) ∨
      ∃ reason,
        config.admitUrl text = .error (.refused reason) ∧
          ¬ config.Admits text := by
  unfold admitUrl Admits
  cases parsed : Url.parse text with
  | error cause =>
      refine .inr ⟨_, rfl, ?_⟩
      rintro ⟨url, isUrl, -⟩
      cases isUrl
  | ok url =>
      dsimp only
      split
      · rename_i allowed
        exact .inl ⟨url, rfl, url, rfl, allowsHost_iff.mp allowed⟩
      · rename_i disallowed
        refine .inr ⟨_, rfl, ?_⟩
        rintro ⟨other, sameUrl, allowed⟩
        cases sameUrl
        exact disallowed (allowsHost_iff.mpr allowed)

/-- What holds of some URL of an admitted text holds of its URL. -/
theorem exists_admitted_iff
    {url : Url}
    (admitted : config.admitUrl text = .ok url)
    {holds : Url → Prop} :
    (∃ other, config.admitUrl text = .ok other ∧ holds other) ↔
      holds url := by
  rw [admitted]
  constructor
  · rintro ⟨other, sameUrl, isHeld⟩
    cases sameUrl
    exact isHeld
  · intro isHeld
    exact ⟨url, rfl, isHeld⟩

theorem admits_of_admitUrl
    {url : Url}
    (admitted : config.admitUrl text = .ok url) :
    config.Admits text := by
  rcases config.admitUrl_cases text with
    ⟨other, -, admits⟩ | ⟨reason, refused, -⟩
  · exact admits
  · rw [refused] at admitted
    cases admitted

end Config

namespace Site

variable {site : Site} {catalog : Catalog} {tree : FileTree}
  {request : ClientRequest} {error : RequestError}

/-- Why a request fails, with what has been found out before. -/
inductive FailsBy
    (site : Site)
    (request : ClientRequest) :
    RequestError → Prop where
  | refusal
      {reason : Refusal}
      (refused : ¬ site.config.Admits request.url) :
      FailsBy site request (.refused reason)
  | nothing
      {url : Url}
      (admitted : site.config.admitUrl request.url = .ok url) :
      FailsBy site request
        (.notFound url.text
          (site.locales.resolved url request.cookies))
  | fault
      {url : Url}
      {fault : Fault}
      (admitted : site.config.admitUrl request.url = .ok url) :
      FailsBy site request (.internal fault)

/-- A failure is a refusal, is told in the language of the request, or is a fault. -/
theorem failsBy_of_respond
    (fails : site.respond catalog tree request = .error error) :
    site.FailsBy request error := by
  unfold respond at fails
  rcases site.config.admitUrl_cases request.url with
    ⟨url, admitted, -⟩ | ⟨reason, refusal, refused⟩
  · rw [admitted] at fails
    cases leads : site.target? tree url.routePath with
    | none =>
        simp only [bind, Except.bind, route_of_target?_eq_none leads,
          Locales.choose_language] at fails
        cases fails
        exact .nothing admitted
    | some target =>
        have ends :=
          (site.visitFor catalog url request.cookies).ends_targetContent
            tree target
        rw [visitFor] at ends
        simp only [bind, Except.bind, route_of_target? leads,
          Locales.choose_language] at fails
        generalize targetContent _ tree target = content at ends fails
        cases ends with
        | ok response =>
            cases fails
        | nothing =>
            cases fails
            exact .nothing admitted
        | fault fault =>
            cases fails
            exact .fault admitted
  · rw [refusal] at fails
    cases fails
    exact .refusal refused

end Site

end CatalogSite
