import CatalogSite.Catalog.Query

namespace CatalogSite.Query

/-!
# The order of results

Without a limit the results of a query are the games that it selects, each as often as
the catalog holds it, in the order of their keys. Games with one key stand as they stand
in the catalog, whichever direction is asked for. Only one list is like that, so that
these properties say all about the order of results. A limit keeps a beginning of it.
-/

variable {query : Query} {games results others : List Game}

/--
The key of a game in the column of a query, which is the title if none is chosen.

Titles, names and platforms are ordered whatever their case is, and dates as written.
-/
def orderKey
    (query : Query)
    (game : Game) :
    String :=
  match query.order.map SearchOrder.column with
  | none => Text.lowercase game.title
  | some .title => Text.lowercase game.title
  | some .developer => Text.lowercase game.developer
  | some .publisher => Text.lowercase game.publisher
  | some .series => Text.lowercase game.series
  | some .platform => Text.lowercase ("/".intercalate game.platforms)
  | some .releaseDate => game.releaseDate
  | some .dateAdded => game.dateAdded
  | some .dateModified => game.dateModified

/-- Whether a query asks for the greatest key first. -/
def isDescending (query : Query) : Bool :=
  match query.order with
  | none => false
  | some order => order.descending

/-- The keys of two games stand in the direction of a query. -/
def InOrder
    (query : Query)
    (first second : Game) :
    Prop :=
  if query.isDescending then
    query.orderKey second ≤ query.orderKey first
  else
    query.orderKey first ≤ query.orderKey second

instance
    (query : Query)
    (first second : Game) :
    Decidable (query.InOrder first second) := by
  unfold InOrder
  infer_instance

/-- A query without its limit. -/
def unlimited (query : Query) : Query :=
  { query with limit := 0 }

/-- Two lists show the same games for each key, in the same order. -/
def SameClasses
    (query : Query)
    (results others : List Game) :
    Prop :=
  ∀ key,
    results.filter (query.orderKey · = key) =
      others.filter (query.orderKey · = key)

/-- A list shows the games that a query selects, in order. -/
structure Ranks
    (query : Query)
    (games results : List Game) :
    Prop where
  sameGames : results.Perm (games.filter query.selects)
  ordered : results.Pairwise query.InOrder
  stable : query.SameClasses results (games.filter query.selects)

theorem inOrder_of_descending
    {first second : Game}
    (descending : query.isDescending = true) :
    query.InOrder first second ↔
      query.orderKey second ≤ query.orderKey first := by
  rw [InOrder, if_pos descending]

theorem inOrder_of_ascending
    {first second : Game}
    (ascending : query.isDescending = false) :
    query.InOrder first second ↔
      query.orderKey first ≤ query.orderKey second := by
  rw [InOrder, ascending, if_neg Bool.false_ne_true]

theorem orderKey_of_none
    (unordered : query.order = none)
    (game : Game) :
    query.orderKey game = SortColumn.title.key game := by
  rw [orderKey, unordered]
  rfl

theorem orderKey_of_some
    {order : SearchOrder}
    (ordered : query.order = some order)
    (game : Game) :
    query.orderKey game = order.column.key game := by
  rw [orderKey, ordered]
  cases column : order.column <;> simp only [Option.map_some, column] <;> rfl

theorem mayPrecede_iff
    {first second : Game} :
    query.mayPrecede first second = true ↔
      query.InOrder first second := by
  unfold mayPrecede InOrder isDescending
  cases ordered : query.order with
  | none =>
      simp [orderKey_of_none ordered]
  | some order =>
      cases order.descending <;> simp [orderKey_of_some ordered]

namespace InOrder

variable {first second third : Game}

theorem trans
    (before : query.InOrder first second)
    (after : query.InOrder second third) :
    query.InOrder first third := by
  cases direction : query.isDescending with
  | true =>
      rw [inOrder_of_descending direction] at *
      exact String.le_trans after before
  | false =>
      rw [inOrder_of_ascending direction] at *
      exact String.le_trans before after

theorem total
    (query : Query)
    (first second : Game) :
    query.InOrder first second ∨ query.InOrder second first := by
  cases direction : query.isDescending with
  | true =>
      rw [inOrder_of_descending direction, inOrder_of_descending direction]
      exact String.le_total _ _
  | false =>
      rw [inOrder_of_ascending direction, inOrder_of_ascending direction]
      exact String.le_total _ _

theorem orderKey_eq
    (before : query.InOrder first second)
    (after : query.InOrder second first) :
    query.orderKey first = query.orderKey second := by
  cases direction : query.isDescending with
  | true =>
      rw [inOrder_of_descending direction] at *
      exact String.le_antisymm after before
  | false =>
      rw [inOrder_of_ascending direction] at *
      exact String.le_antisymm before after

theorem of_orderKey_eq
    (sameKey : query.orderKey first = query.orderKey second) :
    query.InOrder first second := by
  rcases total query first second with before | after
  · exact before
  · unfold InOrder at *
    rwa [sameKey] at *

end InOrder

theorem SameClasses.mem_iff
    (same : query.SameClasses results others)
    {game : Game} :
    game ∈ results ↔ game ∈ others := by
  have inClass := congrArg (game ∈ ·) (same (query.orderKey game))
  simpa using inClass

/-- Only the keys of games in the lists count. -/
theorem sameClasses_iff :
    query.SameClasses results others ↔
      ∀ game ∈ results ++ others,
        results.filter (query.orderKey · = query.orderKey game) =
          others.filter (query.orderKey · = query.orderKey game) := by
  constructor
  · intro same game _
    exact same (query.orderKey game)
  · intro same key
    by_cases used : ∃ game ∈ results ++ others, query.orderKey game = key
    · obtain ⟨game, member, rfl⟩ := used
      exact same game member
    · have unused (game : Game) (member : game ∈ results ++ others) :
          query.orderKey game ≠ key :=
        fun isKey => used ⟨game, member, isKey⟩
      rw [List.filter_eq_nil_iff.mpr, List.filter_eq_nil_iff.mpr]
      · intro game member
        simpa using unused game (List.mem_append_right _ member)
      · intro game member
        simpa using unused game (List.mem_append_left _ member)

instance : Decidable (query.SameClasses results others) :=
  decidable_of_iff _ sameClasses_iff.symm

theorem ranks_iff :
    query.Ranks games results ↔
      results.Perm (games.filter query.selects) ∧
        results.Pairwise query.InOrder ∧
        query.SameClasses results (games.filter query.selects) :=
  ⟨fun ranks => ⟨ranks.sameGames, ranks.ordered, ranks.stable⟩,
    fun parts => ⟨parts.1, parts.2.1, parts.2.2⟩⟩

instance : Decidable (query.Ranks games results) :=
  decidable_of_iff _ ranks_iff.symm

theorem SameClasses.of_cons
    {game : Game}
    (same : query.SameClasses (game :: results) (game :: others)) :
    query.SameClasses results others := by
  intro key
  have classes := same key
  by_cases isKey : query.orderKey game = key
  · simpa [isKey] using classes
  · simpa [isKey] using classes

/-- Ordered lists that begin with different games differ in some class. -/
theorem SameClasses.head_eq
    {game other : Game}
    (same : query.SameClasses (game :: results) (other :: others))
    (ordered : (game :: results).Pairwise query.InOrder)
    (otherOrdered : (other :: others).Pairwise query.InOrder) :
    game = other := by
  have before : query.InOrder game other := by
    rcases List.mem_cons.mp (same.mem_iff.mpr List.mem_cons_self) with
      rfl | inRest
    · exact .of_orderKey_eq rfl
    · exact List.rel_of_pairwise_cons ordered inRest
  have after : query.InOrder other game := by
    rcases List.mem_cons.mp (same.mem_iff.mp List.mem_cons_self) with
      rfl | inRest
    · exact .of_orderKey_eq rfl
    · exact List.rel_of_pairwise_cons otherOrdered inRest
  have sameKey : query.orderKey other = query.orderKey game :=
    after.orderKey_eq before
  have classes := same (query.orderKey game)
  rw [List.filter_cons_of_pos (by simp),
    List.filter_cons_of_pos (by simp [sameKey])] at classes
  exact (List.cons.inj classes).1

/-- An ordered list is determined by the games that it shows for each key. -/
theorem eq_of_sameClasses
    (ordered : results.Pairwise query.InOrder)
    (otherOrdered : others.Pairwise query.InOrder)
    (same : query.SameClasses results others) :
    results = others := by
  induction results generalizing others with
  | nil =>
      exact (List.eq_nil_iff_forall_not_mem.mpr fun game member =>
        List.not_mem_nil (same.mem_iff.mpr member)).symm
  | cons game rest inductionHypothesis =>
      cases others with
      | nil =>
          cases same.mem_iff.mp List.mem_cons_self
      | cons other otherRest =>
          obtain rfl := same.head_eq ordered otherOrdered
          rw [inductionHypothesis ordered.of_cons otherOrdered.of_cons
            same.of_cons]

theorem mayPrecede_trans
    (first second third : Game)
    (before : query.mayPrecede first second = true)
    (after : query.mayPrecede second third = true) :
    query.mayPrecede first third = true :=
  mayPrecede_iff.mpr
    ((mayPrecede_iff.mp before).trans (mayPrecede_iff.mp after))

theorem mayPrecede_total
    (first second : Game) :
    (query.mayPrecede first second || query.mayPrecede second first) =
      true := by
  rw [Bool.or_eq_true, mayPrecede_iff, mayPrecede_iff]
  exact InOrder.total query first second

/-- Ordering games by their keys moves no game past another one with its key. -/
theorem sameClasses_mergeSort
    (query : Query)
    (games : List Game) :
    query.SameClasses (games.mergeSort query.mayPrecede) games := by
  intro key
  let hasKey (game : Game) : Bool :=
    query.orderKey game = key
  have tied :
      (games.filter hasKey).Pairwise fun first second =>
        query.mayPrecede first second = true := by
    apply List.pairwise_of_forall_mem_list
    intro first firstMember second secondMember
    have firstKey : query.orderKey first = key := by
      simpa [hasKey] using (List.mem_filter.mp firstMember).2
    have secondKey : query.orderKey second = key := by
      simpa [hasKey] using (List.mem_filter.mp secondMember).2
    exact mayPrecede_iff.mpr (.of_orderKey_eq (firstKey.trans secondKey.symm))
  -- A sorted part of a list is kept by sorting, and here nothing can be added to it.
  have kept :
      (games.filter hasKey).Sublist
        ((games.mergeSort query.mayPrecede).filter hasKey) := by
    have inSorted :=
      List.sublist_mergeSort mayPrecede_trans mayPrecede_total tied
        List.filter_sublist
    simpa using inSorted.filter hasKey
  have sameLength :
      (games.filter hasKey).length =
        ((games.mergeSort query.mayPrecede).filter hasKey).length :=
    ((games.mergeSort_perm query.mayPrecede).filter hasKey).length_eq.symm
  exact (kept.eq_of_length sameLength).symm

theorem ranks_run
    (query : Query)
    (games : List Game) :
    query.Ranks games (query.unlimited.run games) := by
  have sorted :
      query.unlimited.run games =
        (games.filter query.selects).mergeSort query.mayPrecede :=
    rfl
  rw [sorted]
  exact {
    sameGames := List.mergeSort_perm _ _
    ordered :=
      (List.pairwise_mergeSort mayPrecede_trans mayPrecede_total _).imp
        mayPrecede_iff.mp
    stable := query.sameClasses_mergeSort _ }

theorem mem_run_iff
    {game : Game}
    (isUnlimited : query.limit = 0) :
    game ∈ query.run games ↔
      game ∈ games ∧ query.selects game = true := by
  rw [run, cut, if_pos isUnlimited, List.mem_mergeSort, List.mem_filter]

theorem Ranks.unique
    (ranks : query.Ranks games results)
    (otherRanks : query.Ranks games others) :
    results = others :=
  eq_of_sameClasses ranks.ordered otherRanks.ordered fun key =>
    (ranks.stable key).trans (otherRanks.stable key).symm

/--
The results of a query are the selected games in order, up to its limit.

Without the limit they are the one list that holds every selected game as often as the
catalog does, by ascending or descending keys and with games of one key as they stand in
the catalog. With a limit they are the first games of that list.
-/
theorem run_ranked
    (query : Query)
    (games : List Game) :
    (∀ results,
      query.Ranks games results ↔
        results = query.unlimited.run games) ∧
      (0 < query.limit →
        query.run games =
          (query.unlimited.run games).take query.limit) := by
  refine ⟨fun results => ⟨?_, ?_⟩, ?_⟩
  · intro ranks
    exact ranks.unique (query.ranks_run games)
  · rintro rfl
    exact query.ranks_run games
  · intro limited
    rw [run, cut, if_neg (Nat.ne_of_gt limited)]
    rfl

/-- Two games with one key keep their places, by titles and by descending developers. -/
theorem run_ranked_two_columns :
    let byTitle : Query := { limit := 2 }
    let byDeveloper : Query :=
      { order := some ⟨.developer, true⟩, limit := 2 }
    let first : Game := { id := "1", title := "Óne", developer := "BETA" }
    let second : Game := { id := "2", title := "óNE", developer := "gamma" }
    let third : Game := { id := "3", title := "EON", developer := "beta" }
    byTitle.Ranks [first, second, third] [third, first, second] ∧
      0 < byTitle.limit ∧
      byTitle.run [first, second, third] = [third, first] ∧
      byDeveloper.Ranks [first, second, third] [second, first, third] ∧
      0 < byDeveloper.limit ∧
      byDeveloper.run [first, second, third] = [second, first] := by
  intro byTitle byDeveloper first second third
  have ranksByTitle :
      byTitle.Ranks [first, second, third] [third, first, second] := by
    decide
  have ranksByDeveloper :
      byDeveloper.Ranks [first, second, third]
        [second, first, third] := by
    decide
  have titleLimited : 0 < byTitle.limit := by
    decide
  have developerLimited : 0 < byDeveloper.limit := by
    decide
  have titles := byTitle.run_ranked [first, second, third]
  have developers := byDeveloper.run_ranked [first, second, third]
  refine
    ⟨ranksByTitle, titleLimited, ?_, ranksByDeveloper, developerLimited,
      ?_⟩
  · rw [titles.2 titleLimited, ← (titles.1 _).mp ranksByTitle]
    rfl
  · rw [developers.2 developerLimited,
      ← (developers.1 _).mp ranksByDeveloper]
    rfl

end CatalogSite.Query
