import CatalogSite.Proofs.Catalog.Ranking
import CatalogSite.Proofs.Catalog.Selection

namespace CatalogSite.Query

/-!
# Narrower queries

A condition more takes games away from the results of a query and does nothing else:
the games that are left stand as they stood. The exception is one more filter to choose
from, which may show more games. Neither the order of the conditions nor a repetition
among them shows in the results.
-/

variable {query other narrower : Query} {condition : Condition}
  {test : Game → Bool} {games results others : List Game} {game : Game}

/-- A condition that can be added to a query. -/
inductive Condition where
  | term (text : String)
  | excludedTag (tag : String)
  | filter (added : Filter)
  deriving Repr, DecidableEq

/-- A query with one more condition. -/
def adding (query : Query) : Condition → Query
  | .term text => { query with terms := query.terms ++ [text] }
  | .excludedTag tag =>
      { query with excludedTags := query.excludedTags ++ [tag] }
  | .filter added => { query with filters := query.filters ++ [added] }

namespace Condition

/-- Whether a game meets a condition. -/
def admits (game : Game) : Condition → Bool
  | .term text => termOccurs game text
  | .excludedTag tag => !carriesTag [tag] game
  | .filter added => added.admits game

/-- A condition is not one more filter of which any may be satisfied. -/
def Restricts (query : Query) : Condition → Prop
  | .term _ => True
  | .excludedTag _ => True
  | .filter added => added.isExclusion = true ∨ query.matchAny = false

end Condition

/-- A query that wants all of its filters to be satisfied. -/
def matchingAll (query : Query) : Query :=
  { query with matchAny := false }

/-- A query that accepts any of its filters. -/
def matchingAny (query : Query) : Query :=
  { query with matchAny := true }

/-- Two queries have the same conditions, in any order and number, and cut alike. -/
structure SameConditions
    (query other : Query) :
    Prop where
  terms : ∀ term, term ∈ query.terms ↔ term ∈ other.terms
  excludedTags : ∀ tag, tag ∈ query.excludedTags ↔ tag ∈ other.excludedTags
  filters : ∀ filter, filter ∈ query.filters ↔ filter ∈ other.filters
  matchAny : query.matchAny = other.matchAny
  order : query.order = other.order
  limit : query.limit = other.limit

theorem unlimited_eq_self
    (unlimited : query.limit = 0) :
    query.unlimited = query := by
  rw [Query.unlimited, ← unlimited]

theorem orderKey_congr
    (sameOrder : query.order = other.order) :
    query.orderKey = other.orderKey := by
  funext game
  rw [orderKey, orderKey, sameOrder]

theorem inOrder_congr
    (sameOrder : query.order = other.order) :
    query.InOrder = other.InOrder := by
  have sameDirection : query.isDescending = other.isDescending := by
    rw [isDescending, isDescending, sameOrder]
  funext first second
  rw [InOrder, InOrder, orderKey_congr sameOrder, sameDirection]

theorem SameClasses.filter
    (same : query.SameClasses results others)
    (test : Game → Bool) :
    query.SameClasses (results.filter test) (others.filter test) := by
  intro key
  have moved
      (shown : List Game) :
      (shown.filter test).filter (query.orderKey · = key) =
        (shown.filter (query.orderKey · = key)).filter test := by
    rw [List.filter_filter, List.filter_filter]
    apply List.filter_congr
    intro game _
    exact Bool.and_comm _ _
  rw [moved results, moved others, same key]

/-- A query that selects by one more test has the results that pass the test. -/
theorem run_eq_filter
    (unlimited : query.limit = 0)
    (narrowerUnlimited : narrower.limit = 0)
    (sameOrder : query.order = narrower.order)
    (meets :
      ∀ game,
        narrower.Meets game ↔ query.Meets game ∧ test game = true)
    (games : List Game) :
    narrower.run games = (query.run games).filter test := by
  have ranks : query.Ranks games (query.run games) := by
    simpa only [unlimited_eq_self unlimited] using query.ranks_run games
  have narrowerRanks : narrower.Ranks games (narrower.run games) := by
    simpa only [unlimited_eq_self narrowerUnlimited] using
      narrower.ranks_run games
  have selected :
      (games.filter query.selects).filter test =
        games.filter narrower.selects := by
    rw [List.filter_filter]
    apply List.filter_congr
    intro game _
    rw [Bool.eq_iff_iff, Bool.and_eq_true, selects_iff, selects_iff,
      meets game, and_comm]
  refine narrowerRanks.unique {
    sameGames := ?_
    ordered := ?_
    stable := ?_ }
  · rw [← selected]
    exact ranks.sameGames.filter test
  · rw [← inOrder_congr sameOrder]
    exact ranks.ordered.filter test
  · rw [← selected, SameClasses, ← orderKey_congr sameOrder]
    exact ranks.stable.filter test

theorem carries_append
    (tags more : List String) :
    game.Carries (tags ++ more) ↔
      game.Carries tags ∨ game.Carries more := by
  simp only [Game.Carries, List.mem_append, or_and_right, exists_or,
    and_or_left]

theorem forall_mem_concat
    {α : Type}
    {holds : α → Prop}
    {items : List α}
    {item : α} :
    (∀ member ∈ items ++ [item], holds member) ↔
      (∀ member ∈ items, holds member) ∧ holds item := by
  rw [List.forall_mem_append, List.forall_mem_singleton]

theorem meets_adding_term
    (text : String) :
    (query.adding (.term text)).Meets game ↔
      query.Meets game ∧ termOccurs game text = true := by
  constructor
  · intro meets
    have terms := forall_mem_concat.mp meets.terms
    exact ⟨{ meets with terms := terms.1 }, terms.2⟩
  · rintro ⟨meets, occurs⟩
    have terms := forall_mem_concat.mpr ⟨meets.terms, occurs⟩
    exact { meets with terms }

theorem meets_adding_excludedTag
    (tag : String) :
    (query.adding (.excludedTag tag)).Meets game ↔
      query.Meets game ∧ ¬game.Carries [tag] := by
  constructor
  · intro meets
    have untagged := meets.untagged
    rw [adding, carries_append, not_or] at untagged
    exact ⟨{ meets with untagged := untagged.1 }, untagged.2⟩
  · rintro ⟨meets, lacksTag⟩
    have untagged : ¬game.Carries (query.excludedTags ++ [tag]) := by
      rw [carries_append, not_or]
      exact ⟨meets.untagged, lacksTag⟩
    exact { meets with untagged }

/-- One more exclusion leaves what the other filters include as it is. -/
theorem includes_adding_exclusion
    {added : Filter}
    (isExclusion : added.isExclusion = true) :
    (query.adding (.filter added)).Includes game ↔
      query.Includes game := by
  unfold Includes adding
  simp [or_and_right, exists_or, or_imp, forall_and, isExclusion]

theorem meets_adding_exclusion
    {added : Filter}
    (isExclusion : added.isExclusion = true) :
    (query.adding (.filter added)).Meets game ↔
      query.Meets game ∧ added.admits game = true := by
  have sameIncludes :
      (query.adding (.filter added)).Includes game ↔
        query.Includes game :=
    includes_adding_exclusion isExclusion
  constructor
  · intro meets
    have exclusions := forall_mem_concat.mp meets.exclusions
    have inclusions := sameIncludes.mp meets.inclusions
    exact
      ⟨{ meets with exclusions := exclusions.1, inclusions },
        exclusions.2 isExclusion⟩
  · rintro ⟨meets, admitted⟩
    have exclusions :=
      forall_mem_concat.mpr ⟨meets.exclusions, fun _ => admitted⟩
    have inclusions := sameIncludes.mpr meets.inclusions
    exact { meets with exclusions, inclusions }

theorem meets_adding_inclusion
    {added : Filter}
    (all : query.matchAny = false)
    (isInclusion : added.isExclusion = false) :
    (query.adding (.filter added)).Meets game ↔
      query.Meets game ∧ added.admits game = true := by
  have stillAll : (query.adding (.filter added)).matchAny = false :=
    all
  constructor
  · intro meets
    have exclusions := forall_mem_concat.mp meets.exclusions
    have included :=
      forall_mem_concat.mp ((includes_of_all stillAll).mp meets.inclusions)
    have inclusions := (includes_of_all all).mpr included.1
    exact
      ⟨{ meets with exclusions := exclusions.1, inclusions },
        included.2 isInclusion⟩
  · rintro ⟨meets, admitted⟩
    have exclusions :=
      forall_mem_concat.mpr ⟨meets.exclusions, fun _ => admitted⟩
    have included :=
      forall_mem_concat.mpr
        ⟨(includes_of_all all).mp meets.inclusions, fun _ => admitted⟩
    have inclusions := (includes_of_all stillAll).mpr included
    exact { meets with exclusions, inclusions }

/-- A query that restricts itself by a condition asks for it on top of the others. -/
theorem meets_adding
    (restricts : condition.Restricts query) :
    (query.adding condition).Meets game ↔
      query.Meets game ∧ condition.admits game = true := by
  cases condition with
  | term text =>
      exact meets_adding_term text
  | excludedTag tag =>
      rw [Condition.admits, Bool.not_eq_true', ← Bool.not_eq_true,
        carriesTag_iff]
      exact meets_adding_excludedTag tag
  | filter added =>
      cases kind : added.isExclusion with
      | true =>
          exact meets_adding_exclusion kind
      | false =>
          have all : query.matchAny = false := by
            rcases restricts with isExclusion | all
            · rw [kind] at isExclusion
              cases isExclusion
            · exact all
          exact meets_adding_inclusion all kind

theorem run_adding
    (unlimited : query.limit = 0)
    (restricts : condition.Restricts query)
    (games : List Game) :
    (query.adding condition).run games =
      (query.run games).filter (condition.admits ·) := by
  have sameRest :
      query.order = (query.adding condition).order ∧
        (query.adding condition).limit = 0 := by
    cases condition <;> exact ⟨rfl, unlimited⟩
  apply run_eq_filter unlimited sameRest.2 sameRest.1
  intro game
  exact meets_adding restricts

namespace SameConditions

variable (same : query.SameConditions other)

include same

theorem symm :
    other.SameConditions query where
  terms term := (same.terms term).symm
  excludedTags tag := (same.excludedTags tag).symm
  filters filter := (same.filters filter).symm
  matchAny := same.matchAny.symm
  order := same.order.symm
  limit := same.limit.symm

theorem meets
    (meets : query.Meets game) :
    other.Meets game := by
  have inclusions : other.Includes game := by
    have includes := meets.inclusions
    unfold Includes at *
    rw [← same.matchAny]
    simpa only [same.filters] using includes
  refine {
    untagged := ?_
    terms := ?_
    exclusions := ?_
    inclusions }
  · rintro ⟨own, isOwn, tag, member, alike⟩
    exact
      meets.untagged
        ⟨own, isOwn, tag, (same.excludedTags tag).mpr member, alike⟩
  · intro term member
    exact meets.terms term ((same.terms term).mpr member)
  · intro filter member
    exact meets.exclusions filter ((same.filters filter).mpr member)

theorem run_eq
    (games : List Game) :
    query.run games = other.run games :=
  run_congr (fun _ => ⟨same.meets, same.symm.meets⟩) same.order
    same.limit games

end SameConditions

theorem includes_matchingAny
    (includes : query.matchingAll.Includes game) :
    query.matchingAny.Includes game := by
  have admitted := (includes_of_all rfl).mp includes
  rw [includes_of_any rfl]
  rintro ⟨filter, member, isInclusion⟩
  exact ⟨filter, member, isInclusion, admitted filter member isInclusion⟩

theorem run_matchingAll_sublist
    (unlimited : query.limit = 0)
    (games : List Game) :
    (query.matchingAll.run games).Sublist
      (query.matchingAny.run games) := by
  have anyUnlimited : query.matchingAny.limit = 0 :=
    unlimited
  have allUnlimited : query.matchingAll.limit = 0 :=
    unlimited
  have isPart :
      query.matchingAll.run games =
        (query.matchingAny.run games).filter
          query.matchingAll.selects := by
    apply run_eq_filter anyUnlimited allUnlimited rfl
    intro game
    rw [selects_iff]
    constructor
    · intro meets
      exact
        ⟨{ meets with
            inclusions := includes_matchingAny meets.inclusions },
          meets⟩
    · rintro ⟨-, meets⟩
      exact meets
  rw [isPart]
  exact List.filter_sublist

/--
Narrowing a query that does not cut only takes away results.

One more term, excluded tag or exclusion, and one more filter where all filters have to
be satisfied, leaves the results that meet it, in their order. It does not matter how
often and in which order conditions are given, and asking for all of the filters finds
a part of what asking for any of them finds.
-/
theorem run_narrowed
    (query : Query)
    (unlimited : query.limit = 0)
    (games : List Game) :
    (∀ condition : Condition,
      condition.Restricts query →
      (query.adding condition).run games =
        (query.run games).filter (condition.admits ·)) ∧
      (∀ other : Query,
        query.SameConditions other →
        other.run games = query.run games) ∧
      (query.matchingAll.run games).Sublist
        (query.matchingAny.run games) := by
  refine ⟨?_, ?_, ?_⟩
  · intro condition restricts
    exact run_adding unlimited restricts games
  · intro other same
    exact (same.run_eq games).symm
  · exact run_matchingAll_sublist unlimited games

/-- A query for one of two tags, an exclusion that goes with it, and two ways to repeat it. -/
theorem run_narrowed_tags :
    let query : Query :=
      { filters := [.exactly .tags "Puzzle", .exactly .tags "Maze"]
        matchAny := true }
    let exclusion : Condition := .filter (.notExactly .developer "Beta")
    let repeated : Query :=
      { query with
        filters :=
          [.exactly .tags "Maze", .exactly .tags "Puzzle",
            .exactly .tags "Maze"] }
    let first : Game := { id := "1", title := "B", tags := ["Maze"] }
    let second : Game :=
      { id := "2", title := "A", developer := "Beta", tags := ["Puzzle"] }
    let games : List Game := [first, second, { id := "3", title := "C" }]
    query.limit = 0 ∧
      exclusion.Restricts query ∧
      query.SameConditions repeated ∧
      query.run games = [second, first] ∧
      (query.adding exclusion).run games = [first] ∧
      repeated.run games = [second, first] ∧
      (query.matchingAll.run games).Sublist [second, first] := by
  intro query exclusion repeated first second games
  have unlimited : query.limit = 0 :=
    rfl
  have restricts : exclusion.Restricts query :=
    .inl rfl
  have same : query.SameConditions repeated := by
    refine {
      terms := fun _ => .rfl
      excludedTags := fun _ => .rfl
      filters := ?_
      matchAny := rfl
      order := rfl
      limit := rfl }
    intro filter
    simp only [query, repeated, List.mem_cons, List.not_mem_nil, or_false]
    grind
  have shown : query.run games = [second, first] := by
    have ranks : query.Ranks games [second, first] := by
      decide
    exact (query.ranks_run games).unique ranks
  have narrowed := run_narrowed query unlimited games
  refine ⟨unlimited, restricts, same, shown, ?_, ?_, ?_⟩
  · rw [narrowed.1 exclusion restricts, shown]
    decide
  · rw [narrowed.2.1 repeated same, shown]
  · have all := narrowed.2.2
    have any : query.matchingAny = query :=
      rfl
    rwa [any, shown] at all

end CatalogSite.Query
