import CatalogSite.Content.Shell
import CatalogSite.Json.Writer
import CatalogSite.Proofs.Template.Loading

namespace CatalogSite.Site

/-!
# Loaded sites

A loaded site is assembled, and its store is the outcome of loading the templates of
all pages in order and then those of the shell, of the error page and of the not-found
content. No main template is missing therefore. A fragment is kept only if the last
loading of its namespace asked for it: a later page of the same namespace takes away
the fragments that it does not declare itself, and the three namespaces that are
loaded behind all pages end without fragments.
-/

variable {tree : FileTree} {config : Config} {statistics : Statistics} {site : Site}

/-- The pages that a site declares, in order. -/
def declaredPages
    (site : Site) :
    List Page :=
  site.pages.entries.map fun entry => entry.2.resource

theorem mem_declaredPages
    {entry : String × Route Page}
    (declared : entry ∈ site.pages.entries) :
    entry.2.resource ∈ site.declaredPages :=
  List.mem_map.mpr ⟨entry, declared, rfl⟩

/-- Loading succeeds exactly when each part can be read and assembling accepts them. -/
theorem load_eq_ok_iff :
    Site.load tree config statistics = .ok site ↔
      ∃ pages endpoints hiddenTags locales templates,
        readDocument tree config.pagesFile
            (Json.dictionary? Page.routeOfJson?) = .ok pages ∧
          readDocument tree config.endpointsFile
              (Json.dictionary? Endpoint.routeOfJson?) =
            .ok endpoints ∧
          readHiddenTags tree config.filterFile = .ok hiddenTags ∧
          Locales.load tree config.localesFile config.localesDir
              (translatedNamespaces (pagesOf pages)) config.defaultLang =
            .ok locales ∧
          Template.Store.loadAll tree config.templatesDir .empty
              (templateRequests (pagesOf pages)) = .ok templates ∧
          assemble config templates locales ⟨pages.entries⟩
              ⟨endpoints.entries⟩ hiddenTags statistics = .ok site := by
  constructor
  · intro loads
    unfold load at loads
    obtain ⟨pages, readsPages, rest⟩ := exists_of_bind_eq_ok loads
    obtain ⟨endpoints, readsEndpoints, rest⟩ := exists_of_bind_eq_ok rest
    obtain ⟨hiddenTags, readsTags, rest⟩ := exists_of_bind_eq_ok rest
    obtain ⟨locales, loadsLocales, rest⟩ := exists_of_bind_eq_ok rest
    obtain ⟨templates, loadsTemplates, assembles⟩ :=
      exists_of_bind_eq_ok rest
    exact
      ⟨pages, endpoints, hiddenTags, locales, templates, readsPages,
        readsEndpoints, readsTags, loadsLocales, loadsTemplates,
        assembles⟩
  · rintro ⟨pages, endpoints, hiddenTags, locales, templates, readsPages,
      readsEndpoints, readsTags, loadsLocales, loadsTemplates, assembles⟩
    simp [load, readsPages, readsEndpoints, readsTags, loadsLocales,
      loadsTemplates, assembles, bind, Except.bind]

/-- What a successful loading has put together. -/
theorem parts_of_load
    (loads : Site.load tree config statistics = .ok site) :
    site.config = config ∧
      site.Assembled ∧
      Template.Store.loadAll tree config.templatesDir .empty
          (templateRequests site.declaredPages) =
        .ok site.templates := by
  obtain ⟨pages, endpoints, hiddenTags, locales, templates, -, -, -, -,
    loadsTemplates, assembles⟩ := load_eq_ok_iff.mp loads
  obtain ⟨sameConfig, sameTemplates, samePages⟩ :=
    parts_of_assemble assembles
  have declared : pagesOf pages = site.declaredPages := by
    simp [pagesOf, declaredPages, Dictionary.values, samePages]
  rw [declared] at loadsTemplates
  rw [sameTemplates]
  exact
    ⟨sameConfig, assembled_of_assemble assembles, loadsTemplates⟩

/-- The namespaces whose templates are loaded behind those of all pages. -/
def lateNamespaces : List String :=
  [Template.shellNamespace, Template.errorNamespace,
    Template.notFoundNamespace]

/-- The last page of a namespace. -/
def lastPage?
    (pages : List Page)
    (namespaceName : String) :
    Option Page :=
  pages.reverse.find? fun page => page.namespaceName = namespaceName

open Template.Store in
/-- The last loading of a namespace is that of its last page, unless one comes behind. -/
theorem lastRequest?_templateRequests
    (pages : List Page)
    (namespaceName : String) :
    lastRequest? (templateRequests pages) namespaceName =
      if namespaceName ∈ lateNamespaces then some []
      else (lastPage? pages namespaceName).map Page.fragments := by
  have ofPages :
      lastRequest?
          (pages.map fun page => (page.namespaceName, page.fragments))
          namespaceName =
        (lastPage? pages namespaceName).map Page.fragments := by
    simp [lastRequest?, lastPage?, ← List.map_reverse, List.find?_map,
      Function.comp_def]
  -- One request after the other is taken from the end, where the last one counts.
  have oneByOne :
      templateRequests pages =
        (pages.map fun page => (page.namespaceName, page.fragments)) ++
            [(Template.shellNamespace, [])] ++
          [(Template.errorNamespace, [])] ++
          [(Template.notFoundNamespace, [])] := by
    simp [templateRequests]
  rw [oneByOne, lastRequest?_concat, lastRequest?_concat,
    lastRequest?_concat, ofPages]
  simp only [lateNamespaces, List.mem_cons, List.not_mem_nil, or_false]
  grind

/-- The templates of every page are asked for. -/
theorem mem_templateRequests
    {pages : List Page}
    {page : Page}
    (member : page ∈ pages) :
    (page.namespaceName, page.fragments) ∈ templateRequests pages :=
  List.mem_append_left _ (List.mem_map.mpr ⟨page, member, rfl⟩)

/-- The namespaces behind all pages have main templates. -/
theorem main?_isSome_of_late
    (loads : Site.load tree config statistics = .ok site)
    {namespaceName : String}
    (late : namespaceName ∈ lateNamespaces) :
    (site.templates.main? namespaceName).isSome = true := by
  have requested :
      (namespaceName, []) ∈ templateRequests site.declaredPages := by
    apply List.mem_append_right
    simpa [lateNamespaces] using late
  exact Template.Store.main?_isSome_of_loadAll
    (parts_of_load loads).2.2 requested

/-- The namespace of every page has a main template. -/
theorem main?_isSome_of_page
    (loads : Site.load tree config statistics = .ok site)
    {page : Page}
    (declared : page ∈ site.declaredPages) :
    (site.templates.main? page.namespaceName).isSome = true := by
  exact Template.Store.main?_isSome_of_loadAll
    (parts_of_load loads).2.2 (mem_templateRequests declared)

/--
Everything that a site needs for its answers is there.

The handlers are those that assembling fixes. Every page has its main template, and so
have the shell, the error page and the not-found content.
-/
structure Ready
    (site : Site) : Prop where
  assembled : site.Assembled
  pageTemplate :
    ∀ page ∈ site.declaredPages,
      ∃ template, site.mainTemplate page.namespaceName = .ok template
  lateTemplate :
    ∀ namespaceName ∈ lateNamespaces,
      ∃ template, site.mainTemplate namespaceName = .ok template

theorem exists_mainTemplate
    {namespaceName : String}
    (loaded : (site.templates.main? namespaceName).isSome = true) :
    ∃ template, site.mainTemplate namespaceName = .ok template := by
  obtain ⟨template, isTemplate⟩ := Option.isSome_iff_exists.mp loaded
  exact ⟨template, by rw [mainTemplate, isTemplate]⟩

/-- Loading makes a site ready. -/
theorem ready_of_load
    (loads : Site.load tree config statistics = .ok site) :
    site.Ready where
  assembled := (parts_of_load loads).2.1
  pageTemplate _ declared :=
    exists_mainTemplate (main?_isSome_of_page loads declared)
  lateTemplate _ late :=
    exists_mainTemplate (main?_isSome_of_late loads late)

/-- The last loading of a namespace asks for a fragment. -/
def KeepsFragment
    (pages : List Page)
    (namespaceName fragment : String) : Prop :=
  namespaceName ∉ lateNamespaces ∧
    ∃ page,
      lastPage? pages namespaceName = some page ∧
        fragment ∈ page.fragments

/-- A fragment that every page of a namespace declares is kept. -/
theorem keepsFragment_of_declared
    {pages : List Page}
    {namespaceName fragment : String}
    (early : namespaceName ∉ lateNamespaces)
    {page : Page}
    (member : page ∈ pages)
    (used : page.namespaceName = namespaceName)
    (agreed :
      ∀ other ∈ pages,
        other.namespaceName = namespaceName →
        fragment ∈ other.fragments) :
    KeepsFragment pages namespaceName fragment := by
  have hasLast : (lastPage? pages namespaceName).isSome = true := by
    simpa [lastPage?] using ⟨page, member, used⟩
  obtain ⟨last, isLast⟩ := Option.isSome_iff_exists.mp hasLast
  have lastMember : last ∈ pages :=
    List.mem_reverse.mp (List.mem_of_find?_eq_some isLast)
  have lastUses : last.namespaceName = namespaceName := by
    simpa using List.find?_some isLast
  exact ⟨early, last, isLast, agreed last lastMember lastUses⟩

theorem mem_lastRequest?_iff
    {pages : List Page}
    {namespaceName fragment : String} :
    fragment ∈
        (Template.Store.lastRequest? (templateRequests pages)
          namespaceName).getD [] ↔
      KeepsFragment pages namespaceName fragment := by
  rw [lastRequest?_templateRequests, KeepsFragment]
  by_cases late : namespaceName ∈ lateNamespaces
  · simp [late]
  · cases lastPage? pages namespaceName <;> simp [late]

/-- A kept fragment has the content of its file, and no other fragment is there. -/
theorem fragment?_of_load
    (loads : Site.load tree config statistics = .ok site)
    (namespaceName fragment : String) :
    (KeepsFragment site.declaredPages namespaceName fragment →
      site.templates.fragment? namespaceName fragment =
        tree.text? (Template.Store.fragmentPath config.templatesDir
          namespaceName fragment)) ∧
    (¬KeepsFragment site.declaredPages namespaceName fragment →
      site.templates.fragment? namespaceName fragment = none) := by
  have holds :=
    Template.Store.HoldsLast.empty.loadAll (parts_of_load loads).2.2
  rw [List.nil_append] at holds
  rw [holds.fragment?_eq, ← mem_lastRequest?_iff]
  exact ⟨fun kept => if_pos kept, fun lost => if_neg lost⟩

/-- The file of every fragment that a page declares has been read. -/
theorem exists_text?_of_declared
    (loads : Site.load tree config statistics = .ok site)
    {page : Page}
    (declared : page ∈ site.declaredPages)
    {fragment : String}
    (named : fragment ∈ page.fragments) :
    ∃ content,
      tree.text? (Template.Store.fragmentPath config.templatesDir
        page.namespaceName fragment) = some content := by
  obtain ⟨-, readable⟩ :=
    Template.Store.readable_of_loadAll (parts_of_load loads).2.2 _
      (mem_templateRequests declared)
  exact Option.isSome_iff_exists.mp (readable fragment named)

/--
The exact extent to which declared fragments are available.

Loading reads the file of every fragment that a page declares. The fragment is then
found exactly when the last loading of its namespace asks for it as well.
-/
theorem fragment?_eq_content_iff
    (loads : Site.load tree config statistics = .ok site)
    {page : Page}
    (declared : page ∈ site.declaredPages)
    {fragment : String}
    (named : fragment ∈ page.fragments) :
    ∃ content,
      tree.text? (Template.Store.fragmentPath config.templatesDir
          page.namespaceName fragment) = some content ∧
        (site.templates.fragment? page.namespaceName fragment =
            some content ↔
          KeepsFragment site.declaredPages page.namespaceName fragment) ∧
        (¬KeepsFragment site.declaredPages page.namespaceName fragment →
          site.templates.fragment? page.namespaceName fragment =
            none) := by
  obtain ⟨content, isContent⟩ :=
    exists_text?_of_declared loads declared named
  obtain ⟨kept, lost⟩ :=
    fragment?_of_load loads page.namespaceName fragment
  refine ⟨content, isContent, ?_, lost⟩
  by_cases keeps :
    KeepsFragment site.declaredPages page.namespaceName fragment
  · simp [keeps, kept keeps, isContent]
  · simp [keeps, lost keeps]

/-- The search page with everything that it renders. -/
def searchPage : Page :=
  { Page.bare "search" with
    fragments := ["simple", "advanced", "result", "navigation"] }

/-- A page of the news that renders items. -/
def newsPage : Page :=
  { Page.bare "news" with fragments := ["item"] }

/-- The configuration of a small site. -/
def smallConfig : Config :=
  { Config.defaults with defaultLang := "en" }

/-- The disk of a small site: two pages share a namespace, and one language lacks texts. -/
def smallDisk : FileTree where
  files :=
    let document (content : Json) : FileContent := .text content.text
    let page (page : Page) : Json :=
      .object [("namespace", .ofString page.namespaceName),
        ("fragments", .array (page.fragments.map .ofString))]
    let language (name : String) : Json :=
      .object [("name", .ofString name)]
    let message (text : String) : Json :=
      .object [("Message", .ofString text)]
    [(["data", "pages.json"], document (.object [
        ("/search", page searchPage),
        ("/news", page newsPage),
        ("/old", page (.bare "news"))])),
      (["data", "endpoints.json"], document (.object [])),
      (["data", "locales.json"], document (.object [
        ("en", language "English"),
        ("fr", language "French")])),
      (["locales", "en", "search.json"], document (.object [])),
      (["locales", "en", "news.json"], document (.object [])),
      (["locales", "en", "shell.json"], document (.object [])),
      (["locales", "en", "notfound.json"], document (message "Missing")),
      (["locales", "fr", "notfound.json"], document (message "Absent")),
      (["templates", "search.html"], .text "\x7bsearchInterface\x7d"),
      (["templates", "search_simple.html"], .text "<form>"),
      (["templates", "search_advanced.html"], .text "<form>"),
      (["templates", "search_result.html"], .text "<li>"),
      (["templates", "search_navigation.html"], .text "<ul>"),
      (["templates", "news.html"], .text "news"),
      (["templates", "news_item.html"], .text "<p>"),
      (["templates", "shell.html"], .text "\x7bCONTENT\x7d"),
      (["templates", "error.html"], .text "\x7berror\x7d"),
      (["templates", "notfound.html"], .text "\x7bMessage\x7d")]

/-- The site that is loaded from the small disk. -/
def smallSite : Site where
  config := smallConfig
  templates :=
    { namespaces := .ofList [
        ("search", {
          main := "\x7bsearchInterface\x7d"
          fragments := .ofList [("simple", "<form>"),
            ("advanced", "<form>"), ("result", "<li>"),
            ("navigation", "<ul>")] }),
        ("news", { main := "news", fragments := .empty }),
        ("shell", { main := "\x7bCONTENT\x7d", fragments := .empty }),
        ("error", { main := "\x7berror\x7d", fragments := .empty }),
        ("notfound",
          { main := "\x7bMessage\x7d", fragments := .empty })] }
  locales :=
    { default := "en"
      languages := .ofList [
        ("en", {
          name := "English"
          translations := .ofList [
            ("search", .empty), ("news", .empty), ("shell", .empty),
            ("notfound", .ofTexts [("Message", "Missing")])] }),
        ("fr", {
          name := "French"
          translations := .ofList [
            ("notfound", .ofTexts [("Message", "Absent")])] })] }
  pages :=
    { entries := [
        ("/search", ⟨searchPage, false⟩),
        ("/news", ⟨newsPage, false⟩),
        ("/old", ⟨.bare "news", false⟩)] }
  endpoints := .empty
  hiddenTags := []
  statistics := .empty .epoch
  handlers := .ofList [("search", .search), ("news", .plain)]

theorem load_smallDisk :
    Site.load smallDisk smallConfig (.empty .epoch) = .ok smallSite := by
  refine
    load_eq_ok_iff.mpr
      ⟨.ofList smallSite.pages.entries, .empty, [], smallSite.locales,
        smallSite.templates, ?_, ?_, ?_, ?_, ?_, ?_⟩
  all_goals
    apply eq_ok_of_toOption_eq_some
    decide +kernel

/-- A fragment of the only page of its namespace is found. -/
theorem fragment?_eq_content_iff_single :
    Site.load smallDisk smallConfig (.empty .epoch) = .ok smallSite ∧
      searchPage ∈ smallSite.declaredPages ∧
      "simple" ∈ searchPage.fragments ∧
      KeepsFragment smallSite.declaredPages "search" "simple" ∧
      smallSite.templates.fragment? "search" "simple" =
        some "<form>" := by
  have declared : searchPage ∈ smallSite.declaredPages := by
    decide
  have named : "simple" ∈ searchPage.fragments := by
    decide
  have keeps :
      KeepsFragment smallSite.declaredPages "search" "simple" :=
    ⟨by decide, searchPage, by decide, named⟩
  obtain ⟨content, isContent, found, -⟩ :=
    fragment?_eq_content_iff load_smallDisk declared named
  have written : content = "<form>" := by
    apply Option.some.inj
    rw [← isContent]
    decide +kernel
  refine ⟨load_smallDisk, declared, named, keeps, ?_⟩
  rw [← written]
  exact found.mpr keeps

/-- A second page of a namespace takes away the fragments that the first one declares. -/
theorem exists_declared_fragment_lost :
    Site.load smallDisk smallConfig (.empty .epoch) = .ok smallSite ∧
      newsPage ∈ smallSite.declaredPages ∧
      "item" ∈ newsPage.fragments ∧
      smallDisk.text? (Template.Store.fragmentPath smallConfig.templatesDir
          newsPage.namespaceName "item") = some "<p>" ∧
      smallSite.templates.fragment? newsPage.namespaceName "item" =
        none := by
  refine ⟨load_smallDisk, ?_, ?_, ?_, ?_⟩
  · decide
  · decide
  · decide +kernel
  · decide

end CatalogSite.Site
