import CatalogSite.Catalog.Query

namespace CatalogSite

/-!
# What a query selects

A query selects the games that meet its conditions. The conditions are stated without
the lists that hold them: it counts which terms, excluded tags and filters a query has,
but neither their order nor how often one of them stands there.
-/

/-- A tag of the game is one of some tags, up to the case of ASCII letters. -/
def Game.Carries
    (tags : List String)
    (game : Game) :
    Prop :=
  ∃ own ∈ game.tags, ∃ tag ∈ tags,
    Text.asciiLowercase tag = Text.asciiLowercase own

/-- A query leaves out the games that carry one of its excluded tags. -/
theorem Query.carriesTag_iff
    {tags : List String}
    {game : Game} :
    Query.carriesTag tags game = true ↔ game.Carries tags := by
  simp [Query.carriesTag, Game.Carries, Text.equalsIgnoringAsciiCase,
    Text.asciiLowercase, String.ofList_inj]

instance
    (tags : List String)
    (game : Game) :
    Decidable (game.Carries tags) :=
  decidable_of_iff _ Query.carriesTag_iff

namespace Query

variable {query : Query} {game : Game}

/--
A game satisfies the filters of a query that are no exclusions.

It satisfies all of them, or one of them if the query accepts any and has one.
-/
def Includes
    (query : Query)
    (game : Game) :
    Prop :=
  if query.matchAny then
    (∃ filter ∈ query.filters, filter.isExclusion = false) →
      ∃ filter ∈ query.filters,
        filter.isExclusion = false ∧ filter.admits game = true
  else
    ∀ filter ∈ query.filters,
      filter.isExclusion = false → filter.admits game = true

/-- A game meets the conditions of a query. -/
structure Meets
    (query : Query)
    (game : Game) :
    Prop where
  untagged : ¬game.Carries query.excludedTags
  terms : ∀ term ∈ query.terms, termOccurs game term = true
  exclusions :
    ∀ filter ∈ query.filters,
      filter.isExclusion = true → filter.admits game = true
  inclusions : query.Includes game

theorem includes_of_any
    (any : query.matchAny = true) :
    query.Includes game ↔
      ((∃ filter ∈ query.filters, filter.isExclusion = false) →
        ∃ filter ∈ query.filters,
          filter.isExclusion = false ∧ filter.admits game = true) := by
  rw [Includes, if_pos any]

theorem includes_of_all
    (all : query.matchAny = false) :
    query.Includes game ↔
      ∀ filter ∈ query.filters,
        filter.isExclusion = false → filter.admits game = true := by
  rw [Includes, all, if_neg Bool.false_ne_true]

theorem all_filter_admits
    (counts : Filter → Bool)
    (filters : List Filter) :
    (filters.filter counts).all (Filter.admits · game) = true ↔
      ∀ filter ∈ filters,
        counts filter = true → filter.admits game = true := by
  simp only [List.all_eq_true, List.mem_filter, and_imp]

theorem any_filter_admits
    (counts : Filter → Bool)
    (filters : List Filter) :
    (filters.filter counts).any (Filter.admits · game) = true ↔
      ∃ filter ∈ filters,
        counts filter = true ∧ filter.admits game = true := by
  simp only [List.any_eq_true, List.mem_filter, and_assoc]

theorem isEmpty_filter_iff
    (counts : Filter → Bool)
    (filters : List Filter) :
    (filters.filter counts).isEmpty = true ↔
      ¬∃ filter ∈ filters, counts filter = true := by
  simp only [List.isEmpty_iff, List.filter_eq_nil_iff, not_exists, not_and]

theorem filtersAdmit_iff :
    query.filtersAdmit game = true ↔
      (∀ filter ∈ query.filters,
        filter.isExclusion = true → filter.admits game = true) ∧
        query.Includes game := by
  unfold filtersAdmit
  rw [Bool.and_eq_true, all_filter_admits]
  apply and_congr_right
  intro _
  rw [Bool.or_eq_true, isEmpty_filter_iff]
  cases mode : query.matchAny with
  | true =>
      rw [if_pos rfl, any_filter_admits, includes_of_any mode,
        Classical.or_iff_not_imp_left, Classical.not_not]
      simp only [Bool.not_eq_true']
  | false =>
      rw [if_neg Bool.false_ne_true, all_filter_admits, includes_of_all mode]
      simp only [Bool.not_eq_true']
      -- Where no filter includes anything, all of them are satisfied.
      constructor
      · rintro (none | all) filter member includes
        · exact (none ⟨filter, member, includes⟩).elim
        · exact all filter member includes
      · exact .inr

theorem selects_iff :
    query.selects game = true ↔ query.Meets game := by
  rw [selects, Bool.and_eq_true, Bool.and_eq_true, Bool.not_eq_true',
    ← Bool.not_eq_true, carriesTag_iff, List.all_eq_true, filtersAdmit_iff]
  constructor
  · rintro ⟨⟨untagged, terms⟩, exclusions, inclusions⟩
    exact { untagged, terms, exclusions, inclusions }
  · intro meets
    exact
      ⟨⟨meets.untagged, meets.terms⟩, meets.exclusions, meets.inclusions⟩

/-- Queries with the same conditions, order and limit have the same results. -/
theorem run_congr
    {other : Query}
    (meets : ∀ game, query.Meets game ↔ other.Meets game)
    (sameOrder : query.order = other.order)
    (sameLimit : query.limit = other.limit)
    (games : List Game) :
    query.run games = other.run games := by
  have sameSelection : query.selects = other.selects := by
    funext game
    rw [Bool.eq_iff_iff, selects_iff, selects_iff, meets game]
  have samePlaces : query.mayPrecede = other.mayPrecede := by
    funext first second
    rw [mayPrecede, mayPrecede, sameOrder]
  rw [run, run, sameLimit, sameSelection, samePlaces]

end Query

end CatalogSite
