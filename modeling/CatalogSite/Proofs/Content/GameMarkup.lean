import CatalogSite.Content.GamePage
import CatalogSite.Proofs.Dictionary.Markup

namespace CatalogSite

/-!
# Markup on the page of a game

Every field of a game is escaped before it becomes a definition. The address of the
logo is the exception: its file name is escaped, but its two directories are slices
of the identifier as the catalog has it. Markup among these slices reaches the page,
and nothing else of a game does.
-/

namespace GamePage

/-- The key under which a page has the address of the logo. -/
def logoKey : String :=
  "viewLogo"

/-- The page of a game is provided when the URL names a game of the catalog. -/
theorem provide_eq_ok_iff
    {visit : Visit}
    {provided : Definitions} :
    provide visit = .ok provided ↔
      ∃ id game,
        visit.url.queryValue? "id" = some id ∧
          visit.catalog.find id = .ok (some game) ∧
          describe visit.site.config.imageUrl game = provided := by
  unfold provide
  cases visit.url.queryValue? "id" with
  | none =>
      simp
  | some id =>
      cases found : visit.catalog.find id with
      | error cause =>
          simp [found, bind, Except.bind]
      | ok result =>
          cases result with
          | none =>
              simp [found, bind, Except.bind]
          | some game =>
              simp [found, bind, Except.bind]

/-- The address of the logo is made from the identifier and its escaped form. -/
theorem text?_logoKey_describe
    (imageUrl : String)
    (game : Game) :
    (describe imageUrl game).text? logoKey =
      some (logoAddress imageUrl game.id (Text.escape game.id)) := by
  simp [describe, logoKey, Dictionary.ofTexts, Dictionary.ofList,
    Dictionary.insertAll, Dictionary.text?, Dictionary.get?_insert,
    Definition.asText]

/-- A field of a game other than the address of its logo holds no markup. -/
theorem markupFree_of_text?_describe
    {imageUrl key content : String}
    {game : Game}
    (otherKey : key ≠ logoKey)
    (defined : (describe imageUrl game).text? key = some content) :
    Text.MarkupFree content := by
  have written := Dictionary.mem_of_text?_ofTexts defined
  refine
    (?_ : ∀ field ∈ _, field.1 ≠ logoKey → Text.MarkupFree field.2)
      (key, content) written otherKey
  simp [logoKey, Text.markupFree_escape]

/--
The exact extent of the markup on the page of a game.

Whenever the page is provided, the address of the logo is the only definition that
may hold markup. It does exactly when one of the two slices of the identifier does
that name its directories.
-/
theorem provide_markupFree_iff
    {visit : Visit}
    {provided : Definitions}
    (cleanBase : Text.MarkupFree visit.site.config.imageUrl)
    (succeeds : provide visit = .ok provided) :
    ∃ id game,
      visit.url.queryValue? "id" = some id ∧
        visit.catalog.find id = .ok (some game) ∧
        (∀ key content,
          key ≠ logoKey →
          provided.text? key = some content →
          Text.MarkupFree content) ∧
        (provided.MarkupFree ↔
          Text.MarkupFree
              (String.ofList (Text.byteSlice 0 2 game.id.toList)) ∧
            Text.MarkupFree
              (String.ofList (Text.byteSlice 2 4 game.id.toList))) := by
  obtain ⟨id, game, asked, found, rfl⟩ :=
    provide_eq_ok_iff.mp succeeds
  refine
    ⟨id, game, asked, found,
      fun key content => markupFree_of_text?_describe, ?_⟩
  rw [← markupFree_logoAddress cleanBase
    (Text.markupFree_escape game.id)]
  constructor
  · intro clean
    exact clean logoKey _ (text?_logoKey_describe _ game)
  · intro cleanLogo key content defined
    by_cases isLogo : key = logoKey
    · rw [isLogo, text?_logoKey_describe] at defined
      rwa [← Option.some.inj defined]
    · exact markupFree_of_text?_describe isLogo defined

/-- A visit to the page of the only game of a catalog, with the query of the URL. -/
def visitOnly
    (game : Game)
    (query : String) :
    Visit where
  site := {
    config := .defaults
    templates := .empty
    locales := { default := "en", languages := .empty }
    pages := ⟨[("/view", ⟨.bare "view", false⟩)]⟩
    endpoints := .empty
    hiddenTags := []
    statistics := .empty .epoch
    handlers := .ofList [("view", .view)] }
  catalog := (GameStore.ofGames [game]).catalog
  url := {
    scheme := "http".toList
    authority := some (.ofHost (.domain "x".toList))
    path := .segments ["view".toList]
    query := some query.toList
    fragment := none }
  language := "en"

/-- Markup behind the fourth byte of an identifier does not reach the page. -/
theorem provide_markupFree_iff_behind :
    let game : Game := { id := "ab12<i>", title := "Alpha <Quest>" }
    let visit := visitOnly game "id=ab12%3Ci%3E"
    Text.MarkupFree visit.site.config.imageUrl ∧
      ∃ provided,
        provide visit = .ok provided ∧ provided.MarkupFree := by
  intro game visit
  have cleanBase : Text.MarkupFree visit.site.config.imageUrl := by
    decide
  have asked : visit.url.queryValue? "id" = some game.id := by
    decide +kernel
  have found : visit.catalog.find game.id = .ok (some game) := by
    rfl
  have succeeds :
      provide visit =
        .ok (describe visit.site.config.imageUrl game) :=
    provide_eq_ok_iff.mpr ⟨game.id, game, asked, found, rfl⟩
  obtain ⟨id, other, isAsked, isFound, -, extent⟩ :=
    provide_markupFree_iff cleanBase succeeds
  obtain rfl : game.id = id :=
    Option.some.inj (asked.symm.trans isAsked)
  obtain rfl : game = other :=
    Option.some.inj (Except.ok.inj (found.symm.trans isFound))
  have cleanSlices :
      Text.MarkupFree
          (String.ofList (Text.byteSlice 0 2 game.id.toList)) ∧
        Text.MarkupFree
          (String.ofList (Text.byteSlice 2 4 game.id.toList)) := by
    decide +kernel
  exact ⟨cleanBase, _, succeeds, extent.mpr cleanSlices⟩

/-- Markup among the first bytes of an identifier names the directories of the logo. -/
theorem exists_provide_not_markupFree :
    let game : Game := { id := "<b>1", title := "Alpha" }
    let visit := visitOnly game "id=%3Cb%3E1"
    Text.MarkupFree visit.site.config.imageUrl ∧
      ∃ provided,
        provide visit = .ok provided ∧
          provided.text? logoKey =
            some (visit.site.config.imageUrl ++
              "/Logos/<b/>1/&lt;b&gt;1.png") ∧
          ¬provided.MarkupFree := by
  intro game visit
  have cleanBase : Text.MarkupFree visit.site.config.imageUrl := by
    decide
  have asked : visit.url.queryValue? "id" = some game.id := by
    decide +kernel
  have found : visit.catalog.find game.id = .ok (some game) := by
    rfl
  have address :
      logoAddress visit.site.config.imageUrl game.id
          (Text.escape game.id) =
        visit.site.config.imageUrl ++ "/Logos/<b/>1/&lt;b&gt;1.png" := by
    decide +kernel
  have defined :
      (describe visit.site.config.imageUrl game).text? logoKey =
        some (visit.site.config.imageUrl ++
          "/Logos/<b/>1/&lt;b&gt;1.png") := by
    rw [text?_logoKey_describe, address]
  have marked :
      ¬Text.MarkupFree
        (visit.site.config.imageUrl ++
          "/Logos/<b/>1/&lt;b&gt;1.png") := by
    decide +kernel
  exact
    ⟨cleanBase, _,
      provide_eq_ok_iff.mpr ⟨game.id, game, asked, found, rfl⟩,
      defined, fun clean => marked (clean logoKey _ defined)⟩

end GamePage

end CatalogSite
