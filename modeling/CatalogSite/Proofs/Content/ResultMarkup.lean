import CatalogSite.Proofs.Content.CreatorLine
import CatalogSite.Proofs.Dictionary.Markup
import CatalogSite.Proofs.Template.Characters
import CatalogSite.Proofs.Text.ByteSlices

namespace CatalogSite.SearchPage

open Template

/-!
# Markup in the results of a search

What a search shows of a game is escaped text, text of the translations, or put together
from both. The line that names a creator is expanded like a placeholder, and the name may
hold references that are read again. But its parameters are two definitions, and only an
element writes angle brackets, so that the line holds no markup where the words of the line
hold none. The address of a logo is cut out of an identifier that has been escaped before.
-/

variable {definitions : Definitions} {imageUrl : String}

/-- The keys that every result has a definition for. -/
def resultKeys : List String :=
  ["resultId", "resultLogo", "resultTitle", "resultCreator",
    "resultPlatform", "resultLibrary", "resultTags"]

/-- The keys that the form has a definition for: a simple search shows its words. -/
def formKeys (url : Url) : List String :=
  ["nsfwChecked", "anyChecked"] ++
    if isAdvanced url then [] else ["searchQuery"]

/-- The line is expanded with the words and the name, and with no element. -/
theorem provide_lineParameters
    {pattern : Definition}
    {name : String}
    (cleanWords : Text.MarkupFree pattern.asText)
    (cleanName : Text.MarkupFree name) :
    Provide (Text.isMarkup · = false) (lineDefinitions pattern name)
      lineParameters where
  noElement := by
    simp [lineParameters]
  texts := by
    simp [lineParameters]
  definitions := by
    intro key content member defined
    simp only [lineParameters, List.mem_cons, Parameter.definition.injEq,
      List.not_mem_nil, or_false] at member
    rcases member with rfl | rfl
    · rw [text?_lineDefinitions_pattern] at defined
      rwa [← Option.some.inj defined]
    · rw [text?_lineDefinitions_name] at defined
      rwa [← Option.some.inj defined]

/-- The line that names a creator holds no markup but that of its words. -/
theorem markupFree_creatorLine
    (clean : definitions.MarkupFree)
    (creator : String) :
    Text.MarkupFree (creatorLine definitions creator) := by
  have cleanName : Text.MarkupFree (Text.escape creator) :=
    Text.markupFree_escape creator
  unfold creatorLine
  split
  · decide
  · cases found : definitions.get? creatorKey with
    | none =>
        exact cleanName
    | some pattern =>
        have translated :
            definitions.text? creatorKey = some pattern.asText := by
          rw [Dictionary.text?, found, Option.map_some]
        have cleanWords : Text.MarkupFree pattern.asText :=
          clean creatorKey pattern.asText translated
        have cleanFallback : Text.MarkupFree "null" := by
          decide
        intro c member
        change c ∈ (expand (creatorKey ++ ",creator")
          (lineDefinitions pattern (Text.escape creator))).toList at member
        rw [expand, String.toList_ofList] at member
        exact
          (provide_lineParameters cleanWords cleanName).forall_mem_expandChars
            cleanFallback (parameters?_line pattern (Text.escape creator))
            c member

/-- A label is a translation or one of two fixed words. -/
theorem markupFree_libraryLabel
    (clean : definitions.MarkupFree)
    (library : String) :
    Text.MarkupFree (libraryLabel definitions library) := by
  have cleanLabel
      (key fixed : String)
      (cleanFixed : Text.MarkupFree fixed) :
      Text.MarkupFree ((definitions.text? key).getD fixed) := by
    cases translated : definitions.text? key with
    | none =>
        exact cleanFixed
    | some label =>
        exact clean key label translated
  unfold libraryLabel
  split
  · exact cleanLabel "LibraryGame" "game" (by decide)
  · exact cleanLabel "LibraryAnimation" "animation" (by decide)

/-- The address of a logo that is cut out of escaped text holds no markup. -/
theorem markupFree_resultLogo
    (cleanBase : Text.MarkupFree imageUrl)
    (id : String) :
    Text.MarkupFree
      (logoAddress imageUrl (Text.escape id) (Text.escape id) ++
        "?type=jpg") := by
  have cleanId : Text.MarkupFree (Text.escape id) :=
    Text.markupFree_escape id
  have cleanSlice
      (first last : Nat) :
      Text.MarkupFree
        (String.ofList
          (Text.byteSlice first last (Text.escape id).toList)) := by
    intro c member
    rw [String.toList_ofList] at member
    exact cleanId c (Text.mem_of_mem_byteSlice member)
  rw [Text.markupFree_append, markupFree_logoAddress cleanBase cleanId]
  exact ⟨⟨cleanSlice 0 2, cleanSlice 2 4⟩, by decide⟩

/-- A result has its definitions, and they hold no markup but that of the page. -/
theorem cleanlyDefine_resultDefinitions
    (cleanBase : Text.MarkupFree imageUrl)
    (clean : definitions.MarkupFree)
    (game : Game) :
    (resultDefinitions imageUrl definitions game).CleanlyDefine
      resultKeys where
  defined := by
    intro key isResultKey
    apply Dictionary.contains_overlay_of_above
    exact Dictionary.contains_insertAll.mpr (.inl isResultKey)
  clean := by
    apply clean.overlay
    apply Definitions.markupFree_ofTexts
    simp only [List.forall_mem_cons]
    exact
      ⟨Text.markupFree_escape game.id,
        markupFree_resultLogo cleanBase game.id,
        Text.markupFree_escape game.title,
        markupFree_creatorLine clean game.creator,
        Text.markupFree_escape _,
        markupFree_libraryLabel clean game.library,
        Text.markupFree_escape _,
        List.forall_mem_nil _⟩

theorem markupFree_checkedMark
    (on : Bool) :
    Text.MarkupFree (checkedMark on) := by
  cases on <;> decide

/-- The form has its definitions, and they hold no markup but that of the page. -/
theorem cleanlyDefine_formDefinitions
    (clean : definitions.MarkupFree)
    (url : Url) :
    (formDefinitions url definitions).CleanlyDefine (formKeys url) := by
  have marked :=
    (clean.insertText (markupFree_checkedMark (showsHidden url))
      "nsfwChecked").insertText
        (markupFree_checkedMark (url.queryFlag "any")) "anyChecked"
  have cleanQuery :
      Text.MarkupFree (Text.escape ((url.queryValue? "query").getD "")) :=
    Text.markupFree_escape _
  unfold formDefinitions formKeys
  split
  · refine { defined := ?_, clean := marked }
    simp [Dictionary.insertText, Dictionary.contains_insert]
  · refine {
      defined := ?_
      clean := marked.insertText cleanQuery "searchQuery" }
    simp [Dictionary.insertText, Dictionary.contains_insert]

/--
Neither the results of a search nor its form are given markup.

Where the address of the images and the texts of the translations hold none, each result
has all of its definitions and no text among them holds any, whatever the game is. The same
is true of the form, whatever the URL asks for.
-/
theorem cleanlyDefine_search
    (site : Site)
    (cleanBase : Text.MarkupFree site.config.imageUrl)
    (cleanTexts :
      ∀ key content,
        definitions.get? key = some (.text content) →
        Text.MarkupFree content) :
    (∀ game,
      (resultDefinitions site.config.imageUrl definitions
        game).CleanlyDefine resultKeys) ∧
      ∀ url,
        (formDefinitions url definitions).CleanlyDefine (formKeys url) := by
  have clean : definitions.MarkupFree :=
    Definitions.markupFree_of_texts cleanTexts
  exact
    ⟨cleanlyDefine_resultDefinitions cleanBase clean,
      cleanlyDefine_formDefinitions clean⟩

/-- A name with markup and wraps, one of them for a parameter that does not exist. -/
theorem cleanlyDefine_search_wraps :
    let site : Site := {
      config := .defaults
      templates := .empty
      locales := { default := "en", languages := .empty }
      pages := ⟨[]⟩
      endpoints := .empty
      hiddenTags := []
      statistics := .empty .epoch
      handlers := .empty }
    let definitions : Definitions :=
      .ofList
        [("ResultCreator", .text "by $1"), ("total", .number (.integer (-3)))]
    let game : Game :=
      { id := "<\">"
        title := "<i>"
        developer := "<b>$0\x7bx\x7d$2\x7by\x7d" }
    let shown := resultDefinitions site.config.imageUrl definitions game
    Text.MarkupFree site.config.imageUrl ∧
      (∀ key content,
        definitions.get? key = some (.text content) →
        Text.MarkupFree content) ∧
      shown.CleanlyDefine resultKeys ∧
      shown.text? "resultLogo" =
        some (site.config.imageUrl ++
          "/Logos/&l/t;/&lt;&quot;&gt;.png?type=jpg") ∧
      shown.text? "resultCreator" = some "by &lt;b&gt;by $1null" := by
  intro site definitions game shown
  have cleanBase : Text.MarkupFree site.config.imageUrl := by
    decide
  have cleanTexts :
      ∀ key content,
        definitions.get? key = some (.text content) →
        Text.MarkupFree content := by
    intro key content found
    have written := Dictionary.mem_or_get?_of_get?_insertAll found
    simp only [List.mem_cons, Prod.mk.injEq, Definition.text.injEq,
      reduceCtorEq, and_false, List.not_mem_nil, or_false] at written
    rcases written with ⟨-, rfl⟩ | nothing
    · decide
    · cases nothing
  exact
    ⟨cleanBase, cleanTexts,
      (cleanlyDefine_search site cleanBase cleanTexts).1 game,
      by decide +kernel, by decide +kernel⟩

end CatalogSite.SearchPage
