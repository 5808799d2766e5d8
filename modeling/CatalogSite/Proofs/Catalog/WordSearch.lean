import CatalogSite.Proofs.Catalog.Selection

namespace CatalogSite.Query

/-!
# Searching for a word in two ways

A term is looked for in five fields of a game, and so are five filters of which any one has
to be satisfied. The terms of a text are its words in lowercase, and a filter makes its
value lowercase on its own. So whoever types a word finds the games that five rows of the
advanced search find, one for each field, in the same order and with the same cut.
-/

variable {query : Query} {game : Game} {word : String}

/-- The fields that a term is looked for in. -/
def searchedFields : List SearchField :=
  [.title, .developer, .publisher, .series, .tags]

/-- A filter for a word in each field that a term is looked for in. -/
def wordFilters (word : String) : List Filter :=
  searchedFields.map fun field => .contains field word

-- These are what the rows of an advanced search stand for.
example (word : String) :
    ["title", "developer", "publisher", "series", "tags"].filterMap
        (Filter.ofRow? · "contains" word) =
      wordFilters word := by
  rfl

/-- Some field that a term is looked for in holds a word. -/
def HoldsWord
    (game : Game)
    (word : String) :
    Prop :=
  ∃ field ∈ searchedFields,
    (Filter.contains field word).admits game = true

/-- A word occurs as a term where one of the fields holds it. -/
theorem termOccurs_lowercase_iff :
    termOccurs game (Text.lowercase word) = true ↔
      HoldsWord game word := by
  simp [termOccurs, HoldsWord, searchedFields, Filter.admits,
    Filter.containsIn, SearchField.texts, or_assoc]

/-- A text without blanks is its only word. -/
theorem terms_ofInput_of_noBlank
    (nonempty : word ≠ "")
    (noBlank : ∀ c ∈ word.toList, Text.isBlank c = false) :
    (ofInput word).terms = [Text.lowercase word] := by
  simp [ofInput, Text.words, List.splitOnP_eq_singleton noBlank, nonempty]

/-- No filter for a word is an exclusion, and one of them is satisfied where the word is. -/
theorem includes_wordFilters_iff
    (filters : query.filters = wordFilters word)
    (any : query.matchAny = true) :
    query.Includes game ↔ HoldsWord game word := by
  have someInclusion :
      ∃ filter ∈ query.filters, filter.isExclusion = false := by
    rw [filters]
    exact ⟨.contains .title word, List.mem_cons_self, rfl⟩
  rw [includes_of_any any]
  constructor
  · intro includes
    obtain ⟨filter, member, -, admitted⟩ := includes someInclusion
    rw [filters] at member
    obtain ⟨field, isSearched, rfl⟩ := List.mem_map.mp member
    exact ⟨field, isSearched, admitted⟩
  · rintro ⟨field, isSearched, admitted⟩ -
    refine ⟨.contains field word, ?_, rfl, admitted⟩
    rw [filters]
    exact List.mem_map_of_mem isSearched

/-- A query with one word as its term wants games that hold the word. -/
theorem meets_term_iff
    (terms : query.terms = [Text.lowercase word])
    (noFilters : query.filters = [])
    (all : query.matchAny = false) :
    query.Meets game ↔
      ¬game.Carries query.excludedTags ∧ HoldsWord game word := by
  constructor
  · intro meets
    have occurs := meets.terms (Text.lowercase word) (by simp [terms])
    exact ⟨meets.untagged, termOccurs_lowercase_iff.mp occurs⟩
  · rintro ⟨untagged, holds⟩
    refine { untagged, terms := ?_, exclusions := ?_, inclusions := ?_ }
    · rw [terms, List.forall_mem_singleton]
      exact termOccurs_lowercase_iff.mpr holds
    · rw [noFilters]
      exact List.forall_mem_nil _
    · rw [includes_of_all all, noFilters]
      exact List.forall_mem_nil _

/-- A query that accepts any filter for a word wants games that hold the word. -/
theorem meets_wordFilters_iff
    (noTerms : query.terms = [])
    (filters : query.filters = wordFilters word)
    (any : query.matchAny = true) :
    query.Meets game ↔
      ¬game.Carries query.excludedTags ∧ HoldsWord game word := by
  constructor
  · intro meets
    exact
      ⟨meets.untagged,
        (includes_wordFilters_iff filters any).mp meets.inclusions⟩
  · rintro ⟨untagged, holds⟩
    refine {
      untagged
      terms := ?_
      exclusions := ?_
      inclusions := (includes_wordFilters_iff filters any).mpr holds }
    · rw [noTerms]
      exact List.forall_mem_nil _
    · rw [filters]
      intro filter member isExclusion
      obtain ⟨field, -, rfl⟩ := List.mem_map.mp member
      cases isExclusion

/--
A word finds the same games as a term and as five filters of which any is enough.

The two queries leave out the same tags, order alike and cut alike. The word is any text
without blanks, in any script and case.
-/
theorem run_ofInput_eq_run_wordFilters
    (nonempty : word ≠ "")
    (noBlank : ∀ c ∈ word.toList, Text.isBlank c = false)
    (excludedTags : List String)
    (order : Option SearchOrder)
    (limit : Nat)
    (games : List Game) :
    run { ofInput word with excludedTags, order, limit } games =
      run
        { filters := wordFilters word
          matchAny := true
          excludedTags, order, limit }
        games := by
  apply run_congr
  case meets =>
    intro game
    calc
      Meets { ofInput word with excludedTags, order, limit } game
          ↔ ¬game.Carries excludedTags ∧ HoldsWord game word :=
        meets_term_iff (terms_ofInput_of_noBlank nonempty noBlank) rfl rfl
      _ ↔ Meets
            { filters := wordFilters word
              matchAny := true
              excludedTags, order, limit }
            game :=
        Iff.symm (meets_wordFilters_iff rfl rfl rfl)
  case sameOrder =>
    rfl
  case sameLimit =>
    rfl

/-- A word with a final sigma that some games have in a tag or as part of a name. -/
theorem run_ofInput_eq_run_wordFilters_sigma :
    let word := "ΟΔΟΣ"
    let order : Option SearchOrder := some ⟨.developer, true⟩
    let games : List Game :=
      [{ id := "1", title := "Alpha", tags := ["οδος"] },
        { id := "2", title := "Beta", developer := "Η ΟΔΟΣ Α" },
        { id := "3", title := "ΟΔΟΣ", tags := ["Extreme"] },
        { id := "4", title := "ΟΔΟΣΑ" }]
    word ≠ "" ∧
      (∀ c ∈ word.toList, Text.isBlank c = false) ∧
      games.map (termOccurs · (Text.lowercase word)) =
        [true, true, true, false] ∧
      run { ofInput word with excludedTags := ["extreme"], order, limit := 2 }
          games =
        run
          { filters := wordFilters word
            matchAny := true
            excludedTags := ["extreme"], order, limit := 2 }
          games := by
  intro word order games
  have nonempty : word ≠ "" := by
    decide
  have noBlank : ∀ c ∈ word.toList, Text.isBlank c = false := by
    have none : word.toList.any Text.isBlank = false := by
      decide
    exact fun c member => eq_false_of_ne_true (List.any_eq_false.mp none c member)
  exact
    ⟨nonempty, noBlank, by decide,
      run_ofInput_eq_run_wordFilters nonempty noBlank ["extreme"] order 2
        games⟩

end CatalogSite.Query
