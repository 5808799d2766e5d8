import CatalogSite.Site.Basic

namespace CatalogSite

/-!
# Handlers of an assembled site

Assembling a site fixes for every declared namespace the handler that the name
stands for. A namespace of a site therefore has the handler of its name or none of
its own. New statistics change nothing about that.
-/

/-- A computation with two steps succeeds only when both steps do. -/
theorem exists_of_bind_eq_ok
    {ε α β : Type}
    {first : Except ε α}
    {next : α → Except ε β}
    {result : β}
    (succeeds : first >>= next = .ok result) :
    ∃ value, first = .ok value ∧ next value = .ok result := by
  cases first with
  | error cause =>
      cases succeeds
  | ok value =>
      exact ⟨value, rfl, succeeds⟩

theorem eq_ok_of_toOption_eq_some
    {ε α : Type}
    {result : Except ε α}
    {value : α}
    (hasValue : result.toOption = some value) :
    result = .ok value := by
  cases result with
  | error cause =>
      cases hasValue
  | ok actual =>
      exact congrArg Except.ok (Option.some.inj hasValue)

namespace Site

variable {handlers registered : Dictionary Handler}

/-- Fix the handlers of some names in addition to others. -/
def fixed
    (handlers : Dictionary Handler)
    (names : List String) :
    Dictionary Handler :=
  names.foldl
    (fun handlers name => handlers.insert name (.ofNamespace name))
    handlers

/-- Fixing the handler of a name again, or that of another name, undoes nothing. -/
theorem get?_fixed
    (handlers : Dictionary Handler)
    (names : List String)
    (name : String) :
    (fixed handlers names).get? name =
      if name ∈ names then some (.ofNamespace name)
      else handlers.get? name := by
  induction names generalizing handlers with
  | nil =>
      rfl
  | cons first rest inductionHypothesis =>
      rw [fixed, List.foldl_cons, ← fixed, inductionHypothesis,
        Dictionary.get?_insert]
      by_cases inRest : name ∈ rest
      · simp [inRest]
      · by_cases isFirst : first = name
        · simp [isFirst]
        · simp [inRest, isFirst, Ne.symm isFirst]

/-- The namespaces that the pages of a table name. -/
def pageNamespaces
    (entries : List (String × Route Page)) :
    List String :=
  entries.map (·.2.resource.namespaceName)

/-- The namespaces that the endpoints of a table name. -/
def endpointNamespaces
    (entries : List (String × Route Endpoint)) :
    List String :=
  entries.map (·.2.resource.namespaceName)

/-- Registering pages fixes their handlers unless one of these is for endpoints only. -/
theorem registerPages_eq_ok_iff
    {entries : List (String × Route Page)} :
    registerPages handlers entries = .ok registered ↔
      (∀ name ∈ pageNamespaces entries,
        (Handler.ofNamespace name).isEndpointOnly = false) ∧
      registered = fixed handlers (pageNamespaces entries) := by
  induction entries generalizing handlers with
  | nil =>
      constructor
      · intro succeeds
        cases succeeds
        exact ⟨List.forall_mem_nil _, rfl⟩
      · rintro ⟨-, rfl⟩
        rfl
  | cons entry rest inductionHypothesis =>
      rw [registerPages, pageNamespaces, List.map_cons,
        List.forall_mem_cons]
      cases endpointOnly :
          (Handler.ofNamespace
            entry.2.resource.namespaceName).isEndpointOnly with
      | true =>
          simp
      | false =>
          simp only [Bool.false_eq_true, if_false, true_and]
          exact inductionHypothesis

/-- Registering endpoints fixes their handlers if each of these serves endpoints. -/
theorem registerEndpoints_eq_ok_iff
    {entries : List (String × Route Endpoint)} :
    registerEndpoints handlers entries = .ok registered ↔
      (∀ name ∈ endpointNamespaces entries,
        (Handler.ofNamespace name).servesEndpoints = true) ∧
      registered = fixed handlers (endpointNamespaces entries) := by
  induction entries generalizing handlers with
  | nil =>
      constructor
      · intro succeeds
        cases succeeds
        exact ⟨List.forall_mem_nil _, rfl⟩
      · rintro ⟨-, rfl⟩
        rfl
  | cons entry rest inductionHypothesis =>
      rw [registerEndpoints, endpointNamespaces, List.map_cons,
        List.forall_mem_cons]
      cases serves :
          (Handler.ofNamespace
            entry.2.resource.namespaceName).servesEndpoints with
      | true =>
          simp only [if_true, true_and]
          exact inductionHypothesis
      | false =>
          simp

section Assembling

variable {config : Config} {templates : Template.Store}
  {locales : Locales} {pages : RouteTable Page}
  {endpoints : RouteTable Endpoint} {hiddenTags : List String}
  {statistics : Statistics} {site : Site}

/--
A site can be assembled exactly when no page has a handler for endpoints only and each
endpoint has one that serves it. It consists of its parts and of the handlers.
-/
theorem assemble_eq_ok_iff :
    assemble config templates locales pages endpoints hiddenTags
          statistics =
        .ok site ↔
      (∀ name ∈ pageNamespaces pages.entries,
        (Handler.ofNamespace name).isEndpointOnly = false) ∧
      (∀ name ∈ endpointNamespaces endpoints.entries,
        (Handler.ofNamespace name).servesEndpoints = true) ∧
      site =
        { config, templates, locales, pages, endpoints, hiddenTags
          statistics
          handlers :=
            fixed .empty
              (pageNamespaces pages.entries ++
                endpointNamespaces endpoints.entries) } := by
  rw [fixed, List.foldl_append]
  constructor
  · intro succeeds
    obtain ⟨registered, pagesFixed, rest⟩ := exists_of_bind_eq_ok succeeds
    obtain ⟨handlers, endpointsFixed, shape⟩ := exists_of_bind_eq_ok rest
    obtain ⟨forPages, rfl⟩ := registerPages_eq_ok_iff.mp pagesFixed
    obtain ⟨serve, rfl⟩ := registerEndpoints_eq_ok_iff.mp endpointsFixed
    cases shape
    exact ⟨forPages, serve, rfl⟩
  · rintro ⟨forPages, serve, rfl⟩
    have pagesFixed :=
      registerPages_eq_ok_iff.mpr
        ⟨forPages, Eq.refl (fixed .empty (pageNamespaces pages.entries))⟩
    have endpointsFixed :=
      registerEndpoints_eq_ok_iff.mpr
        ⟨serve,
          Eq.refl
            (fixed (fixed .empty (pageNamespaces pages.entries))
              (endpointNamespaces endpoints.entries))⟩
    simp only [assemble, pagesFixed, endpointsFixed, bind, Except.bind]
    rfl

/-- An assembled site consists of the parts that it was assembled from. -/
theorem parts_of_assemble
    (succeeds :
      assemble config templates locales pages endpoints hiddenTags
        statistics = .ok site) :
    site.config = config ∧
      site.templates = templates ∧
      site.pages = pages := by
  obtain ⟨-, -, rfl⟩ := assemble_eq_ok_iff.mp succeeds
  exact ⟨rfl, rfl, rfl⟩

end Assembling

/-- The site was put together from its parts, with the handlers that this fixes. -/
def Assembled
    (site : Site) : Prop :=
  Site.assemble site.config site.templates site.locales site.pages
      site.endpoints site.hiddenTags site.statistics =
    .ok site

/-- What assembling returns is an assembled site. -/
theorem assembled_of_assemble
    {config : Config}
    {templates : Template.Store}
    {locales : Locales}
    {pages : RouteTable Page}
    {endpoints : RouteTable Endpoint}
    {hiddenTags : List String}
    {statistics : Statistics}
    {site : Site}
    (succeeds :
      assemble config templates locales pages endpoints hiddenTags
        statistics = .ok site) :
    site.Assembled := by
  obtain ⟨-, -, rfl⟩ := assemble_eq_ok_iff.mp succeeds
  exact succeeds

/-- The namespaces that the pages and endpoints of a site name. -/
def namespaces (site : Site) : List String :=
  pageNamespaces site.pages.entries ++
    endpointNamespaces site.endpoints.entries

variable {site : Site}

/-- A site is assembled if its handlers are allowed and are the ones to be fixed. -/
theorem assembled_iff :
    site.Assembled ↔
      (∀ name ∈ pageNamespaces site.pages.entries,
        (Handler.ofNamespace name).isEndpointOnly = false) ∧
      (∀ name ∈ endpointNamespaces site.endpoints.entries,
        (Handler.ofNamespace name).servesEndpoints = true) ∧
      site.handlers = fixed .empty site.namespaces := by
  rw [Assembled, assemble_eq_ok_iff, namespaces]
  refine and_congr_right' (and_congr_right' ⟨?_, ?_⟩)
  · exact congrArg Site.handlers
  · intro same
    rw [← same]

namespace Assembled

/-- An assembled site stays assembled when new statistics come in. -/
theorem withStatistics
    (assembled : site.Assembled)
    (statistics : Statistics) :
    (site.withStatistics statistics).Assembled := by
  have shape := assembled_iff.mp assembled
  exact assembled_iff.mpr shape

/-- A namespace has the handler of its name if it is declared, and else none of its own. -/
theorem handler_eq
    (assembled : site.Assembled)
    (name : String) :
    site.handler name =
      if name ∈ site.namespaces then .ofNamespace name else .plain := by
  obtain ⟨-, -, areFixed⟩ := assembled_iff.mp assembled
  rw [handler, areFixed, get?_fixed]
  split <;> rfl

/-- A namespace of an assembled site has the handler of its name or none of its own. -/
theorem handler_eq_or
    (assembled : site.Assembled)
    (name : String) :
    site.handler name = .ofNamespace name ∨
      site.handler name = .plain := by
  rw [assembled.handler_eq]
  split
  · exact .inl rfl
  · exact .inr rfl

/-- A name that stands for no handler has none. -/
theorem handler_eq_plain
    (assembled : site.Assembled)
    {name : String}
    (noHandler : Handler.ofNamespace name = .plain) :
    site.handler name = .plain := by
  rcases assembled.handler_eq_or name with named | plain
  · exact named.trans noHandler
  · exact plain

/-- A page that is declared has the handler that the name of its namespace stands for. -/
theorem handler_of_page
    {entry : String × Route Page}
    (assembled : site.Assembled)
    (declared : entry ∈ site.pages.entries) :
    site.handler entry.2.resource.namespaceName =
      .ofNamespace entry.2.resource.namespaceName := by
  rw [assembled.handler_eq, if_pos]
  exact List.mem_append_left _ (List.mem_map_of_mem declared)

/-- An endpoint that is declared has a handler that serves it. -/
theorem servesEndpoints_of_endpoint
    {entry : String × Route Endpoint}
    (assembled : site.Assembled)
    (declared : entry ∈ site.endpoints.entries) :
    (site.handler entry.2.resource.namespaceName).servesEndpoints =
      true := by
  obtain ⟨-, serve, -⟩ := assembled_iff.mp assembled
  have named :
      entry.2.resource.namespaceName ∈
        endpointNamespaces site.endpoints.entries :=
    List.mem_map_of_mem declared
  have declaredName :
      entry.2.resource.namespaceName ∈ site.namespaces :=
    List.mem_append_right _ named
  rw [assembled.handler_eq, if_pos declaredName]
  exact serve _ named

end Assembled

end Site

end CatalogSite
