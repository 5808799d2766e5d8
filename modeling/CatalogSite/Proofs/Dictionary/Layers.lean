import CatalogSite.DefinitionStep
import CatalogSite.Proofs.Dictionary.Lookup

namespace CatalogSite.Dictionary

/-!
# Layers of a dictionary

A dictionary is determined by its keys in their order and by the value of each key.
Laying a dictionary over another keeps the lower keys at their places and lists the new
ones behind them, so layers can be put together in any grouping, a layer laid twice
counts once, and changing all values commutes with laying.
-/

variable {α β : Type}

/-! ## Keys -/

theorem contains_iff_mem_keys
    {dictionary : Dictionary α}
    {key : String} :
    dictionary.contains key = true ↔ key ∈ dictionary.keys := by
  have onEntries
      (entries : List (String × α)) :
      (find? entries key).isSome = true ↔
        key ∈ entries.map Prod.fst := by
    induction entries with
    | nil =>
        simp [find?]
    | cons entry rest inductionHypothesis =>
        rw [find?, List.map_cons, List.mem_cons,
          ← inductionHypothesis]
        by_cases same : entry.1 = key
        · simp [same]
        · simp [same, Ne.symm same]
  exact onEntries dictionary.entries

/-- A write keeps the keys and lists a new one last. -/
theorem keys_insert
    (dictionary : Dictionary α)
    (key : String)
    (value : α) :
    (dictionary.insert key value).keys =
      if key ∈ dictionary.keys then dictionary.keys
      else dictionary.keys ++ [key] := by
  have onEntries
      (entries : List (String × α)) :
      (put entries key value).map Prod.fst =
        if key ∈ entries.map Prod.fst then entries.map Prod.fst
        else entries.map Prod.fst ++ [key] := by
    induction entries with
    | nil =>
        simp [put]
    | cons entry rest inductionHypothesis =>
        by_cases same : entry.1 = key
        · simp [put, same]
        · rw [put, if_neg same, List.map_cons, inductionHypothesis]
          by_cases listed : key ∈ rest.map Prod.fst
          · rw [if_pos listed, List.map_cons,
              if_pos (List.mem_cons_of_mem _ listed)]
          · have notListed : key ∉ entry.1 :: rest.map Prod.fst := by
              rw [List.mem_cons, not_or]
              exact ⟨Ne.symm same, listed⟩
            rw [if_neg listed, List.map_cons, if_neg notListed,
              List.cons_append]
  exact onEntries dictionary.entries

/-- The keys of a list are listed behind the known ones, each at its first writing. -/
theorem keys_insertAll
    {entries : List (String × α)}
    (distinct : (entries.map Prod.fst).Nodup)
    (dictionary : Dictionary α) :
    (dictionary.insertAll entries).keys =
      dictionary.keys ++
        (entries.map Prod.fst).filter (· ∉ dictionary.keys) := by
  induction entries generalizing dictionary with
  | nil =>
      simp [insertAll]
  | cons entry rest inductionHypothesis =>
      obtain ⟨notAgain, restDistinct⟩ := List.nodup_cons.mp distinct
      have later :=
        inductionHypothesis restDistinct
          (dictionary.insert entry.1 entry.2)
      rw [keys_insert] at later
      rw [List.map_cons, List.filter_cons]
      by_cases known : entry.1 ∈ dictionary.keys
      · rw [if_pos known] at later
        rw [if_neg (by simpa using known)]
        exact later
      · rw [if_neg known] at later
        rw [if_pos (by simpa using known)]
        refine later.trans ?_
        -- The new key is among the known ones from now on, but no later entry repeats it.
        rw [List.append_assoc, List.singleton_append]
        congr 2
        apply List.filter_congr
        intro key member
        have different : key ≠ entry.1 :=
          ne_of_mem_of_not_mem member notAgain
        simp [different]

theorem keys_overlay
    (below above : Dictionary α) :
    (below.overlay above).keys =
      below.keys ++ above.keys.filter (· ∉ below.keys) :=
  keys_insertAll above.nodup below

theorem keys_map
    (change : α → β)
    (dictionary : Dictionary α) :
    (dictionary.map change).keys = dictionary.keys := by
  rw [keys, map, List.map_map]
  rfl

/-! ## Equality -/

/-- Without repeated keys a value is found exactly when its entry is listed. -/
theorem find?_eq_some_iff
    {entries : List (String × α)}
    (distinct : (entries.map Prod.fst).Nodup)
    {key : String}
    {value : α} :
    find? entries key = some value ↔ (key, value) ∈ entries := by
  induction entries with
  | nil =>
      simp [find?]
  | cons entry rest inductionHypothesis =>
      obtain ⟨known, old⟩ := entry
      obtain ⟨notAgain, restDistinct⟩ := List.nodup_cons.mp distinct
      rw [find?, List.mem_cons, Prod.mk.injEq]
      by_cases same : known = key
      · subst same
        have notLater : (known, value) ∉ rest := fun listed =>
          notAgain (List.mem_map.mpr ⟨(known, value), listed, rfl⟩)
        simp [notLater, eq_comm]
      · simp [same, Ne.symm same, inductionHypothesis restDistinct]

theorem eq_of_find?_eq
    {first second : List (String × α)}
    (distinct : (first.map Prod.fst).Nodup)
    (sameKeys : first.map Prod.fst = second.map Prod.fst)
    (sameValues : ∀ key, find? first key = find? second key) :
    first = second := by
  induction first generalizing second with
  | nil =>
      exact (List.map_eq_nil_iff.mp sameKeys.symm).symm
  | cons entry rest inductionHypothesis =>
      obtain ⟨other, otherRest, rfl, sameKey, sameRest⟩ :=
        List.map_eq_cons_iff.mp sameKeys.symm
      obtain ⟨notAgain, restDistinct⟩ := List.nodup_cons.mp distinct
      have sameValue : some entry.2 = some other.2 := by
        have atKey := sameValues entry.1
        rwa [find?, if_pos rfl, find?, if_pos sameKey] at atKey
      have sameEntry : entry = other :=
        Prod.ext sameKey.symm (Option.some.inj sameValue)
      have restValues :
          ∀ key, find? rest key = find? otherRest key := by
        intro key
        by_cases again : entry.1 = key
        · -- Neither rest repeats the first key.
          subst again
          rw [find?_eq_none_of_notMem notAgain,
            find?_eq_none_of_notMem (sameRest ▸ notAgain)]
        · have atKey := sameValues key
          rwa [find?, if_neg again, find?,
            if_neg (sameKey ▸ again)] at atKey
      rw [sameEntry,
        inductionHypothesis restDistinct sameRest.symm restValues]

/-- Dictionaries with the same keys in the same order and the same values are equal. -/
theorem ext_get?
    {first second : Dictionary α}
    (sameKeys : first.keys = second.keys)
    (sameValues : ∀ key, first.get? key = second.get? key) :
    first = second := by
  have sameEntries : first.entries = second.entries :=
    eq_of_find?_eq first.nodup sameKeys sameValues
  cases first
  cases second
  cases sameEntries
  rfl

/-! ## Laws of laying -/

theorem overlay_assoc
    (lowest middle highest : Dictionary α) :
    (lowest.overlay middle).overlay highest =
      lowest.overlay (middle.overlay highest) := by
  apply ext_get?
  · simp only [keys_overlay, List.append_assoc, List.filter_append,
      List.filter_filter, List.mem_append, List.mem_filter]
    congr 2
    apply List.filter_congr
    intro key _
    by_cases inLowest : key ∈ lowest.keys <;> simp [inLowest]
  · intro key
    simp only [get?_overlay, Option.or_assoc]

theorem overlay_self
    (dictionary : Dictionary α) :
    dictionary.overlay dictionary = dictionary := by
  apply ext_get?
  · rw [keys_overlay, List.append_right_eq_self, List.filter_eq_nil_iff]
    intro key listed
    simpa using listed
  · intro key
    rw [get?_overlay, Option.or_self]

/-- A layer that is laid twice counts once. -/
theorem overlay_overlay_self
    (below above : Dictionary α) :
    (below.overlay above).overlay above = below.overlay above := by
  rw [overlay_assoc, overlay_self]

/-- Changing all values commutes with laying. -/
theorem map_overlay
    (change : α → β)
    (below above : Dictionary α) :
    (below.overlay above).map change =
      (below.map change).overlay (above.map change) := by
  apply ext_get?
  · simp only [keys_overlay, keys_map]
  · intro key
    simp only [get?_map, get?_overlay, Option.map_or]

/-- Moving entries into a dictionary is laying them over it. -/
theorem merge_eq_overlay
    (below above : Dictionary α) :
    below.merge above = below.overlay above :=
  rfl

end CatalogSite.Dictionary
