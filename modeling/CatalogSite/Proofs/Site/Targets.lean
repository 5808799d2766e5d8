import CatalogSite.Site.Routing

namespace CatalogSite

/-!
# Where requests lead

A target is never made up: it is a route that the site declares, or a file that may be
served from the static directory. A URL is routed exactly when its path has a target,
and without one the failure names the URL and the language that was chosen for it.
-/

/-- A route that is found in a table is declared there. -/
theorem RouteTable.exists_mem_of_find?
    {α : Type}
    {table : RouteTable α}
    {path : String}
    {route : Route α}
    (found : table.find? path = some route) :
    ∃ declared, (declared, route) ∈ table.entries := by
  have isMember
      {wanted : String × Route α → Bool}
      (first :
        (table.entries.find? wanted).map Prod.snd = some route) :
      ∃ declared, (declared, route) ∈ table.entries := by
    obtain ⟨⟨declared, resource⟩, isFirst, isRoute⟩ :=
      Option.map_eq_some_iff.mp first
    cases isRoute
    exact ⟨declared, List.mem_of_find?_eq_some isFirst⟩
  unfold find? at found
  split at found
  · rename_i exact
    cases found
    exact isMember exact
  · exact isMember found

/-- What a site has declared so that a path can have a target. -/
def Target.DeclaredBy
    (site : Site)
    (tree : FileTree)
    (path : String) :
    Target → Prop
  | .endpoint route =>
      ∃ declared, (declared, route) ∈ site.endpoints.entries
  | .page route =>
      ∃ declared, (declared, route) ∈ site.pages.entries
  | .file full =>
      tree.servedFile? site.config.staticDir path = some full

namespace Site

variable {site : Site} {tree : FileTree}

theorem declaredBy_of_target?
    {path : String}
    {target : Target}
    (leads : site.target? tree path = some target) :
    target.DeclaredBy site tree path := by
  unfold target? at leads
  split at leads
  · rename_i route found
    cases leads
    exact RouteTable.exists_mem_of_find? found
  · split at leads
    · rename_i route found
      cases leads
      exact RouteTable.exists_mem_of_find? found
    · obtain ⟨full, served, isTarget⟩ :=
        Option.map_eq_some_iff.mp leads
      cases isTarget
      exact served

theorem route_of_target?
    {url : Url}
    {target : Target}
    (leads : site.target? tree url.routePath = some target)
    (cookies : Option String) :
    site.route tree url cookies =
      .ok { url, choice := site.locales.choose url cookies, target } := by
  rw [route, leads]

theorem route_of_target?_eq_none
    {url : Url}
    (nowhere : site.target? tree url.routePath = none)
    (cookies : Option String) :
    site.route tree url cookies =
      .error (.notFound url.text
        (site.locales.choose url cookies).language) := by
  rw [route, nowhere]

theorem target?_of_route
    {url : Url}
    {cookies : Option String}
    {routed : Routed}
    (routes : site.route tree url cookies = .ok routed) :
    site.target? tree url.routePath = some routed.target := by
  cases leads : site.target? tree url.routePath with
  | none =>
      rw [route_of_target?_eq_none leads] at routes
      cases routes
  | some target =>
      rw [route_of_target? leads] at routes
      cases routes
      rfl

end Site

end CatalogSite
