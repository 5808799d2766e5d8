import CatalogSite.Proofs.Site.CatalogUse
import CatalogSite.Proofs.Site.Loaded

namespace CatalogSite

/-!
# The detail of a fault

Of a fault the client sees that there was one. Two results look alike when they are
equal or when both are faults. Every step on the way to an answer takes results that
look alike to results that look alike, and at the end of it the answers are equal. Two
catalogs that fail on the same calls cannot be told apart therefore, whatever the causes
of their failures are. Nothing is asked of the site, not even that it was assembled.
-/

/-- Two results that differ in the detail of a fault at most. -/
inductive LookAlike
    {α : Type} :
    Except RequestError α → Except RequestError α → Prop where
  | same
      (result : Except RequestError α) :
      LookAlike result result
  | faults
      (first second : Fault) :
      LookAlike (.error (.internal first)) (.error (.internal second))

namespace LookAlike

variable {α β : Type}

theorem eq_or_faults
    {first second : Except RequestError α}
    (alike : LookAlike first second) :
    first = second ∨
      ∃ firstFault secondFault,
        first = .error (.internal firstFault) ∧
          second = .error (.internal secondFault) := by
  cases alike with
  | same =>
      exact .inl rfl
  | faults firstFault secondFault =>
      exact .inr ⟨firstFault, secondFault, rfl, rfl⟩

/-- Steps that look alike for every outcome keep results alike. -/
theorem bind
    {first second : Except RequestError α}
    {firstNext secondNext : α → Except RequestError β}
    (alike : LookAlike first second)
    (nextAlike :
      ∀ value, LookAlike (firstNext value) (secondNext value)) :
    LookAlike (first >>= firstNext) (second >>= secondNext) := by
  cases alike with
  | same =>
      cases first with
      | error error =>
          exact .same _
      | ok value =>
          exact nextAlike value
  | faults firstFault secondFault =>
      exact .faults firstFault secondFault

/-- Queries with the same outcome look alike to the client, whatever makes them fail. -/
theorem lift
    {first second : Except CatalogError α}
    (sameOutcome : first.toOption = second.toOption) :
    LookAlike (Catalog.lift first) (Catalog.lift second) := by
  cases first with
  | error firstCause =>
      cases second with
      | error secondCause =>
          exact .faults (.catalog firstCause) (.catalog secondCause)
      | ok value =>
          cases sameOutcome
  | ok value =>
      cases second with
      | error secondCause =>
          cases sameOutcome
      | ok other =>
          rw [Option.some.inj sameOutcome]
          exact .same _

end LookAlike

/-- Two catalogs that succeed with the same results and fail on the same calls. -/
structure Catalog.FailAlike
    (first second : Catalog) : Prop where
  search :
    ∀ query,
      (first.search query).toOption = (second.search query).toOption
  find :
    ∀ id, (first.find id).toOption = (second.find id).toOption
  platforms :
    first.platforms.toOption = second.platforms.toOption
  totalGames :
    first.totalGames.toOption = second.totalGames.toOption

section Visits

variable {visit : Visit} {other : Catalog}

theorem SearchPage.lookAlike_results
    (alike : other.FailAlike visit.catalog)
    (definitions : Definitions) :
    LookAlike (results (visit.withCatalog other) definitions)
      (results visit definitions) := by
  unfold results Visit.withCatalog
  cases requestedQuery? visit.url with
  | none =>
      exact .same _
  | some query =>
      have searched :=
        LookAlike.lift
          (alike.search (configure visit.site visit.url query))
      exact searched.bind fun games => .same _

theorem SearchPage.lookAlike_provide
    (alike : other.FailAlike visit.catalog)
    (definitions : Definitions) :
    LookAlike (provide (visit.withCatalog other) definitions)
      (provide visit definitions) := by
  have form :=
    LookAlike.same
      (fragment visit.site
        (if isAdvanced visit.url then "advanced" else "simple"))
  exact form.bind fun template =>
    (lookAlike_results alike definitions).bind fun navigation =>
      .same _

theorem GamePage.lookAlike_provide
    (alike : other.FailAlike visit.catalog) :
    LookAlike (provide (visit.withCatalog other)) (provide visit) := by
  unfold provide Visit.withCatalog
  cases visit.url.queryValue? "id" with
  | none =>
      exact .same _
  | some id =>
      have found := LookAlike.lift (alike.find id)
      exact found.bind fun game => .same _

theorem Handler.lookAlike_provide
    (handler : Handler)
    (alike : other.FailAlike visit.catalog)
    (translations : Definitions) :
    LookAlike (handler.provide (visit.withCatalog other) translations)
      (handler.provide visit translations) := by
  cases handler with
  | search =>
      exact SearchPage.lookAlike_provide alike translations
  | view =>
      exact GamePage.lookAlike_provide alike
  | searchInfo =>
      exact .same _
  | plain =>
      exact .same _

namespace Visit

theorem lookAlike_definitions
    (alike : other.FailAlike visit.catalog)
    (name : String) :
    LookAlike ((visit.withCatalog other).definitions name)
      (visit.definitions name) := by
  have provided :=
    (visit.site.handler name).lookAlike_provide alike
      (visit.translations name)
  exact provided.bind fun definitions => .same _

/-- A page shows no more of a failing catalog than that it failed. -/
theorem lookAlike_renderPage
    (alike : other.FailAlike visit.catalog)
    (page : Page) :
    LookAlike ((visit.withCatalog other).renderPage page)
      (visit.renderPage page) := by
  have content := lookAlike_definitions alike page.namespaceName
  have shell := lookAlike_definitions alike Template.shellNamespace
  have template (name : String) :=
    LookAlike.same (visit.site.mainTemplate name)
  exact content.bind fun _ =>
    (template page.namespaceName).bind fun _ =>
      shell.bind fun _ =>
        (template Template.shellNamespace).bind fun _ => .same _

end Visit

/-- Of the targets only a page asks the catalog for anything. -/
theorem Site.lookAlike_targetContent
    (alike : other.FailAlike visit.catalog)
    (tree : FileTree)
    (target : Target) :
    LookAlike (targetContent (visit.withCatalog other) tree target)
      (targetContent visit tree target) := by
  cases target with
  | endpoint route =>
      exact .same _
  | page route =>
      have page := Visit.lookAlike_renderPage alike route.resource
      exact page.bind fun body => .same _
  | file path =>
      exact .same _

end Visits

namespace Site

variable {site : Site} {first second : Catalog}

theorem lookAlike_notFoundPage
    (alike : first.FailAlike second)
    (url language : String) :
    LookAlike (site.notFoundPage first url language)
      (site.notFoundPage second url language) := by
  unfold notFoundPage
  cases Url.parse url with
  | error cause =>
      exact .same _
  | ok parsed =>
      let visit : Visit :=
        { site, catalog := second, url := parsed, language }
      have alikeHere : first.FailAlike visit.catalog := alike
      exact Visit.lookAlike_renderPage alikeHere _

/-- The page that shows a failure does not depend on how the catalog fails. -/
theorem errorPage_eq_of_failAlike
    (alike : first.FailAlike second)
    (error : RequestError) :
    site.errorPage first error = site.errorPage second error := by
  cases error with
  | refused reason =>
      rfl
  | internal fault =>
      rfl
  | notFound url language =>
      have pages :
          LookAlike (site.notFoundPage first url language)
            (site.notFoundPage second url language) :=
        lookAlike_notFoundPage alike url language
      -- A page that cannot be rendered gives way to the minimal one, whatever the fault is.
      rcases pages.eq_or_faults with
        samePage | ⟨firstFault, secondFault, firstFails, secondFails⟩
      · simp only [errorPage, samePage]
      · simp only [errorPage, firstFails, secondFails]

theorem errorResponse_eq_of_failAlike
    (alike : first.FailAlike second)
    (error : RequestError) :
    site.errorResponse first error =
      site.errorResponse second error := by
  unfold errorResponse
  rw [errorPage_eq_of_failAlike alike error]

/-- Every fault has the same answer. -/
theorem errorResponse_internal
    (site : Site)
    (catalog other : Catalog)
    (fault otherFault : Fault) :
    site.errorResponse catalog (.internal fault) =
      site.errorResponse other (.internal otherFault) :=
  rfl

theorem lookAlike_respond
    (alike : first.FailAlike second)
    (tree : FileTree)
    (request : ClientRequest) :
    LookAlike (site.respond first tree request)
      (site.respond second tree request) := by
  refine (LookAlike.same (site.config.admitUrl request.url)).bind ?_
  intro url
  refine (LookAlike.same (site.route tree url request.cookies)).bind ?_
  intro routed
  let visit : Visit :=
    { site
      catalog := second
      url := routed.url
      language := routed.choice.language }
  have content :
      LookAlike (targetContent (visit.withCatalog first) tree routed.target)
        (targetContent visit tree routed.target) :=
    lookAlike_targetContent alike tree routed.target
  exact content.bind fun response => .same _

/--
The detail of a failure never reaches the client.

Two catalogs that fail on the same calls give every request the same answer: the same
status, the same headers and the same body, whatever the causes of the failures are.
-/
theorem answer_eq_of_failAlike
    (alike : first.FailAlike second)
    (site : Site)
    (tree : FileTree)
    (request : ClientRequest) :
    site.answer first tree request = site.answer second tree request := by
  have responses :
      LookAlike (site.respond first tree request)
        (site.respond second tree request) :=
    lookAlike_respond alike tree request
  unfold answer
  split
  · rfl
  · rcases responses.eq_or_faults with
      sameResponse | ⟨firstFault, secondFault, firstFails, secondFails⟩
    · rw [sameResponse]
      cases site.respond second tree request with
      | ok response =>
          rfl
      | error error =>
          exact errorResponse_eq_of_failAlike alike error
    · rw [firstFails, secondFails]
      exact errorResponse_internal site first second firstFault
        secondFault

/-- The catalog all of whose queries fail for the same cause. -/
def failingCatalog
    (cause : CatalogError) :
    Catalog where
  search _ := .error cause
  find _ := .error cause
  platforms := .error cause
  totalGames := .error cause

/-- A search ends in an internal error that hides why the catalog cannot be read. -/
theorem answer_eq_of_failAlike_search :
    let absent :=
      failingCatalog (.io "No such file or directory (os error 2)")
    let closed := failingCatalog (.io "Permission denied (os error 13)")
    let request : ClientRequest :=
      ⟨"", "", "http://[::1]/search?query=quest", none⟩
    absent.FailAlike closed ∧
      (smallSite.answer absent smallDisk request).status =
        .internalError ∧
      smallSite.answer absent smallDisk request =
        smallSite.answer closed smallDisk request := by
  intro absent closed request
  have alike : absent.FailAlike closed :=
    { search := fun _ => rfl
      find := fun _ => rfl
      platforms := rfl
      totalGames := rfl }
  have fails :
      (smallSite.answer absent smallDisk request).status =
        .internalError := by
    decide
  exact
    ⟨alike, fails,
      answer_eq_of_failAlike alike smallSite smallDisk request⟩

end Site

end CatalogSite
