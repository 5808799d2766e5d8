import CatalogSite.Proofs.Site.Assembled
import CatalogSite.Site.Answer

namespace CatalogSite.Site

/-!
# How a request can be answered

A request is turned away, is answered by the finished content of its target, or ends
in a failure that is shown. The three outcomes are listed here together with all that
has been found out on the way, so that a statement on every answer is a statement on
three cases.
-/

variable {site : Site} {catalog : Catalog} {tree : FileTree}
  {request : ClientRequest} {response : Response}

inductive Answers
    (site : Site)
    (catalog : Catalog)
    (tree : FileTree)
    (request : ClientRequest) :
    Response → Prop where
  | blocked
      (blocks :
        site.config.blocks request.address request.userAgent = true) :
      Answers site catalog tree request site.blockedResponse
  | finished
      {url : Url}
      {target : Target}
      {content : Response}
      (welcome :
        site.config.blocks request.address request.userAgent = false)
      (admitted : site.config.admitUrl request.url = .ok url)
      (targeted : site.target? tree url.routePath = some target)
      (rendered :
        targetContent
            { site
              catalog
              url
              language :=
                (site.locales.choose url request.cookies).language }
            tree target =
          .ok content) :
      Answers site catalog tree request
        (site.finished (site.locales.choose url request.cookies) content)
  | failed
      {error : RequestError}
      (welcome :
        site.config.blocks request.address request.userAgent = false)
      (fails : site.respond catalog tree request = .error error) :
      Answers site catalog tree request (site.errorResponse catalog error)

/-- A routed request keeps its URL, and its language is chosen by URL and cookies. -/
theorem route_eq_ok_iff
    {url : Url}
    {cookies : Option String}
    {routed : Routed} :
    site.route tree url cookies = .ok routed ↔
      ∃ target,
        site.target? tree url.routePath = some target ∧
          routed = ⟨url, site.locales.choose url cookies, target⟩ := by
  unfold route
  cases targeted : site.target? tree url.routePath with
  | none =>
      simp
  | some target =>
      constructor
      · intro routes
        cases routes
        exact ⟨target, rfl, rfl⟩
      · rintro ⟨found, isFound, rfl⟩
        cases isFound
        rfl

theorem answers_of_respond
    (welcome :
      site.config.blocks request.address request.userAgent = false)
    (responds : site.respond catalog tree request = .ok response) :
    Answers site catalog tree request response := by
  unfold respond at responds
  obtain ⟨url, admitted, rest⟩ := exists_of_bind_eq_ok responds
  obtain ⟨routed, routes, rest⟩ := exists_of_bind_eq_ok rest
  obtain ⟨content, rendered, isResponse⟩ := exists_of_bind_eq_ok rest
  obtain ⟨target, targeted, rfl⟩ := route_eq_ok_iff.mp routes
  cases isResponse
  exact .finished welcome admitted targeted rendered

/-- Every answer is one of the three outcomes. -/
theorem answers_answer
    (site : Site)
    (catalog : Catalog)
    (tree : FileTree)
    (request : ClientRequest) :
    Answers site catalog tree request
      (site.answer catalog tree request) := by
  unfold answer
  cases turnedAway :
      site.config.blocks request.address request.userAgent with
  | true =>
      exact .blocked turnedAway
  | false =>
      cases responds : site.respond catalog tree request with
      | ok response =>
          exact answers_of_respond turnedAway responds
      | error error =>
          exact .failed turnedAway responds

theorem setCookie_errorResponse
    (site : Site)
    (catalog : Catalog)
    (error : RequestError) :
    (site.errorResponse catalog error).headers.setCookie = none := by
  cases error <;> rfl

end CatalogSite.Site
