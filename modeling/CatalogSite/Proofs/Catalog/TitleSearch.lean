import CatalogSite.Proofs.Catalog.LiteralParts
import CatalogSite.Proofs.Catalog.Ranking
import CatalogSite.Proofs.Catalog.Selection
import CatalogSite.Proofs.Text.Words

namespace CatalogSite.Query

/-!
# Searching for a title

Whoever types the title of a game finds the game, unless it carries a tag that is left
out. The terms are the lowercase forms of the words, each taken on its own, while they
are looked for in the lowercase form of the whole title, which holds all of them.
-/

variable {game : Game} {games : List Game} {tags : List String}

/-- Every term that is read off a text occurs in the lowercase form of the text. -/
theorem containsLowercase_of_mem_terms
    {input term : String}
    (member : term ∈ (ofInput input).terms) :
    Filter.containsLowercase term input = true := by
  obtain ⟨word, isWord, rfl⟩ := List.mem_map.mp member
  rw [Filter.containsLowercase_iff, String.toList_ofList]
  exact Text.isInfix_of_mem_words isWord

theorem meets_ofInput_title
    (untagged : ¬game.Carries tags) :
    Meets { ofInput game.title with excludedTags := tags } game where
  untagged := untagged
  terms := by
    intro term member
    have inTitle : Filter.containsLowercase term game.title = true :=
      containsLowercase_of_mem_terms member
    rw [termOccurs, List.any_cons, inTitle, Bool.true_or, Bool.true_or]
  exclusions := by
    intro filter member
    cases member
  inclusions := by
    rw [includes_of_all rfl]
    intro filter member
    cases member

/-- A game is found by its own title, whatever the title and the other games are. -/
theorem mem_run_ofInput_title
    (member : game ∈ games)
    (untagged : ¬game.Carries tags) :
    game ∈ run { ofInput game.title with excludedTags := tags } games :=
  (mem_run_iff rfl).mpr
    ⟨member, selects_iff.mpr (meets_ofInput_title untagged)⟩

/-- A title with odd blanks, a repeated word and sigmas that end a word in various ways. -/
theorem mem_run_ofInput_title_sigmas :
    let game : Game :=
      { id := "2"
        title := "  ΣΑΣ\u2003ΟΔΟΣ' ΣΑΣ\t.Σ "
        tags := ["Maze"] }
    let query : Query :=
      { ofInput game.title with excludedTags := ["EXTREME", "puzzle"] }
    let games : List Game :=
      [{ id := "1", title := "ΣΑΣ", tags := ["Puzzle"] }, game]
    game ∈ games ∧
      ¬game.Carries ["EXTREME", "puzzle"] ∧
      query.terms = ["σας", "οδος'", "σας", ".σ"] ∧
      game ∈ query.run games := by
  intro game query games
  have member : game ∈ games := by
    decide
  have untagged : ¬game.Carries ["EXTREME", "puzzle"] := by
    decide
  exact
    ⟨member, untagged, by decide,
      mem_run_ofInput_title member untagged⟩

end CatalogSite.Query
