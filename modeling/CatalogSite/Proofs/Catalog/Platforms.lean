import CatalogSite.Catalog.Store
import Mathlib.Data.List.Sort

namespace CatalogSite

/-!
# The platforms of a catalog

The platforms of a catalog are listed once each, in the order of their code points, and
they are exactly the platforms that some game names. Only one list is like that, so that
neither the order of the games nor a game that is listed again can be told from the
platforms. The number of games counts every entry.
-/

/-- A text stands before another one in the order of their code points. -/
def Text.Precedes
    (first second : String) : Prop :=
  first.toList.map Char.toNat < second.toList.map Char.toNat

theorem Text.map_toNat_lt_iff
    {first second : List Char} :
    first.map Char.toNat < second.map Char.toNat ↔ first < second := by
  induction first generalizing second with
  | nil =>
      cases second <;> simp
  | cons c rest inductionHypothesis =>
      cases second with
      | nil =>
          simp
      | cons other others =>
          have sameOrder : c.toNat < other.toNat ↔ c < other :=
            Iff.rfl
          rw [List.map_cons, List.map_cons, List.cons_lt_cons_iff,
            List.cons_lt_cons_iff, inductionHypothesis, sameOrder,
            Char.toNat_inj]

theorem Text.precedes_iff
    {first second : String} :
    Text.Precedes first second ↔ first < second := by
  rw [Precedes, map_toNat_lt_iff, String.lt_iff]

instance
    (first second : String) :
    Decidable (Text.Precedes first second) :=
  decidable_of_iff _ Text.precedes_iff.symm

/-! ## Equal neighbours -/

theorem mem_dropRepeats
    {names : List String}
    {name : String} :
    name ∈ dropRepeats names ↔ name ∈ names := by
  fun_induction dropRepeats names with
  | case1 first rest inductionHypothesis =>
      simp [inductionHypothesis]
  | case2 first second rest different inductionHypothesis =>
      rw [List.mem_cons, inductionHypothesis, ← List.mem_cons]
  | case3 short notLong =>
      rfl

/-- Where equal names are neighbours, each is kept once. -/
theorem pairwise_lt_dropRepeats
    {names : List String}
    (ordered : names.Pairwise (· ≤ ·)) :
    (dropRepeats names).Pairwise (· < ·) := by
  fun_induction dropRepeats names with
  | case1 first rest inductionHypothesis =>
      exact inductionHypothesis ordered.tail
  | case2 first second rest different inductionHypothesis =>
      obtain ⟨isLeast, restOrdered⟩ := List.pairwise_cons.mp ordered
      refine List.pairwise_cons.mpr
        ⟨?_, inductionHypothesis restOrdered⟩
      -- What is kept stands at or behind the second name, which is not the first.
      intro name kept
      have afterSecond : second ≤ name := by
        rcases List.mem_cons.mp (mem_dropRepeats.mp kept) with
          isSecond | inRest
        · exact isSecond ▸ String.le_refl second
        · exact (List.pairwise_cons.mp restOrdered).1 name inRest
      have beforeSecond : first < second :=
        Std.lt_of_le_of_ne (isLeast second List.mem_cons_self) different
      exact Std.lt_of_lt_of_le beforeSecond afterSecond
  | case3 short notLong =>
      cases short with
      | nil =>
          exact .nil
      | cons only rest =>
          cases rest with
          | nil =>
              exact List.pairwise_singleton _ only
          | cons second others =>
              exact (notLong only second others rfl).elim

namespace GameStore

variable {games others : List Game} {names : List String}

/-- A list names each platform of some games once, in order. -/
structure ListsPlatforms
    (games : List Game)
    (names : List String) : Prop where
  ordered : names.Pairwise Text.Precedes
  mem_iff : ∀ name, name ∈ names ↔ ∃ game ∈ games, name ∈ game.platforms

theorem listsPlatforms_platformNames
    (games : List Game) :
    ListsPlatforms games (platformNames games) where
  ordered := by
    have sortedByTest :
        ((games.flatMap Game.platforms).mergeSort
          fun first second => first ≤ second).Pairwise
            fun first second => decide (first ≤ second) = true := by
      apply List.pairwise_mergeSort
      · intro first second third before after
        rw [decide_eq_true_eq] at before after ⊢
        exact String.le_trans before after
      · intro first second
        rw [Bool.or_eq_true, decide_eq_true_eq, decide_eq_true_eq]
        exact String.le_total first second
    have sorted := sortedByTest.imp of_decide_eq_true
    exact (pairwise_lt_dropRepeats sorted).imp Text.precedes_iff.mpr
  mem_iff name := by
    rw [platformNames, mem_dropRepeats, List.mem_mergeSort,
      List.mem_flatMap]

/-- The platforms that games name decide which list it is. -/
theorem ListsPlatforms.eq
    {otherNames : List String}
    (lists : ListsPlatforms games names)
    (listsOther : ListsPlatforms others otherNames)
    (sameGames : ∀ game, game ∈ games ↔ game ∈ others) :
    names = otherNames := by
  have ordered := lists.ordered.imp Text.precedes_iff.mp
  have orderedOther := listsOther.ordered.imp Text.precedes_iff.mp
  refine ordered.eq_of_mem_iff orderedOther fun name => ?_
  rw [lists.mem_iff, listsOther.mem_iff]
  simp only [sameGames]

/--
The platforms of a catalog are the set of platforms that its games name.

They are listed in strictly increasing order of their code points, hence without
repetition, and a name is listed exactly when some game names it. However the games are
put in another order, and whichever of them are listed again, as often as one likes, the
platforms stay the same, while the number of games counts every entry. The statistics
show these two figures.
-/
theorem platforms_form_set
    (store : GameStore)
    (time : Timestamp) :
    ∃ names,
      store.catalog.platforms = .ok names ∧
        store.catalog.totalGames = .ok store.games.length ∧
        Statistics.collect store.catalog time =
          .ok ⟨names, store.games.length, time⟩ ∧
        names.Pairwise Text.Precedes ∧
        (∀ name,
          name ∈ names ↔ ∃ game ∈ store.games, name ∈ game.platforms) ∧
        ∀ (again : List Game) (other : GameStore),
          again ⊆ store.games →
            other.games.Perm (again ++ store.games) →
              other.catalog.platforms = .ok names ∧
                other.catalog.totalGames =
                  .ok (again.length + store.games.length) := by
  have lists := listsPlatforms_platformNames store.games
  refine
    ⟨platformNames store.games, rfl, rfl, rfl, lists.ordered,
      lists.mem_iff, ?_⟩
  intro again other listedAgain sameEntries
  have sameGames
      (game : Game) :
      game ∈ other.games ↔ game ∈ store.games := by
    rw [sameEntries.mem_iff, List.mem_append]
    exact or_iff_right_of_imp (listedAgain ·)
  have samePlatforms :
      platformNames other.games = platformNames store.games :=
    (listsPlatforms_platformNames other.games).eq lists sameGames
  have counted :
      other.games.length = again.length + store.games.length := by
    rw [sameEntries.length_eq, List.length_append]
  exact ⟨congrArg Except.ok samePlatforms, congrArg Except.ok counted⟩

/--
Platforms named by two games, one of which is listed again. The last name comes behind the
one before it by its code point, though it does not in every encoding.
-/
theorem platforms_form_set_again :
    let first : Game :=
      { id := "a", title := "A", platforms := ["😀", "Flash"] }
    let second : Game :=
      { id := "b", title := "B", platforms := ["Flash", "\uff26"] }
    let store := GameStore.ofGames [first, second]
    let other := GameStore.ofGames [second, first, second]
    [second] ⊆ store.games ∧
      other.games.Perm ([second] ++ store.games) ∧
      store.catalog.platforms = .ok ["Flash", "\uff26", "😀"] ∧
      other.catalog.platforms = .ok ["Flash", "\uff26", "😀"] ∧
      other.catalog.totalGames = .ok 3 := by
  intro first second store other
  have listedAgain : [second] ⊆ store.games :=
    List.cons_subset.mpr ⟨.tail first (.head []), List.nil_subset _⟩
  have sameEntries : other.games.Perm ([second] ++ store.games) :=
    .refl _
  have lists : ListsPlatforms store.games ["Flash", "\uff26", "😀"] :=
    { ordered := by decide
      mem_iff := fun name => by
        simp only [store, first, second, ofGames, List.mem_cons,
          List.not_mem_nil, or_false, exists_eq_or_imp, exists_eq_left]
        grind }
  have shown : store.catalog.platforms = .ok ["Flash", "\uff26", "😀"] :=
    congrArg Except.ok
      ((listsPlatforms_platformNames store.games).eq lists
        fun _ => Iff.rfl)
  obtain ⟨names, platforms, -, -, -, -, repeats⟩ :=
    platforms_form_set store .epoch
  obtain ⟨samePlatforms, counted⟩ :=
    repeats [second] other listedAgain sameEntries
  exact
    ⟨listedAgain, sameEntries, shown,
      samePlatforms.trans (platforms.symm.trans shown), counted⟩

end GameStore

end CatalogSite
