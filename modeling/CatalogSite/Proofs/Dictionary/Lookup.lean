import CatalogSite.Definition

namespace CatalogSite.Dictionary

/-!
# Looking up in written dictionaries

The entries that a list writes are found again, and the keys of a dictionary can
be compared without its values. Two dictionaries that agree outside one key have
the same keys once both give that key a value.
-/

variable {α : Type}

/-- Two dictionaries give values to the same keys. -/
def SameKeys
    (first second : Dictionary α) : Prop :=
  ∀ key, first.contains key = second.contains key

/-- Two dictionaries give the same value to every key but one. -/
def AgreeOutside
    (key : String)
    (first second : Dictionary α) : Prop :=
  ∀ other, other ≠ key → first.get? other = second.get? other

/-- A key has a value after a write when it is the written one or had one before. -/
theorem contains_insert
    (dictionary : Dictionary α)
    (key wanted : String)
    (value : α) :
    (dictionary.insert key value).contains wanted =
      (key = wanted || dictionary.contains wanted) := by
  by_cases same : key = wanted
  · simp [contains, get?_insert, same]
  · simp [contains, get?_insert, same]

/-- A dictionary is empty exactly when no key has a value. -/
theorem isEmpty_eq_false_iff
    {dictionary : Dictionary α} :
    dictionary.isEmpty = false ↔
      ∃ key, dictionary.contains key = true := by
  rcases dictionary with ⟨entries, distinct⟩
  cases entries with
  | nil =>
      simp [isEmpty, contains, get?, find?]
  | cons entry rest =>
      constructor
      · intro _
        exact ⟨entry.1, by simp [contains, get?, find?]⟩
      · intro _
        rfl

theorem SameKeys.isEmpty_eq
    {first second : Dictionary α}
    (sameKeys : first.SameKeys second) :
    first.isEmpty = second.isEmpty := by
  have together :
      first.isEmpty = false ↔ second.isEmpty = false := by
    rw [isEmpty_eq_false_iff, isEmpty_eq_false_iff]
    exact exists_congr fun key => by rw [sameKeys key]
  cases firstEmpty : first.isEmpty with
  | false =>
      exact (together.mp firstEmpty).symm
  | true =>
      cases secondEmpty : second.isEmpty with
      | false =>
          rw [together.mpr secondEmpty] at firstEmpty
          exact firstEmpty.symm
      | true =>
          rfl

namespace AgreeOutside

/-- Writing the key that may differ makes the keys the same. -/
theorem sameKeys_insert
    {key : String}
    {first second : Dictionary α}
    (agree : AgreeOutside key first second)
    (firstValue secondValue : α) :
    (first.insert key firstValue).SameKeys
      (second.insert key secondValue) := by
  intro wanted
  rw [contains_insert, contains_insert]
  by_cases same : key = wanted
  · simp [same]
  · simp [same, contains, agree wanted (Ne.symm same)]

theorem get?_insert_eq
    {key wanted : String}
    {first second : Dictionary α}
    (agree : AgreeOutside key first second)
    (firstValue secondValue : α)
    (different : wanted ≠ key) :
    (first.insert key firstValue).get? wanted =
      (second.insert key secondValue).get? wanted := by
  rw [get?_insert, get?_insert, if_neg (Ne.symm different),
    if_neg (Ne.symm different), agree wanted different]

end AgreeOutside

/-- A value found after writing a list is one of the list or was there before. -/
theorem mem_or_get?_of_get?_insertAll
    {dictionary : Dictionary α}
    {entries : List (String × α)}
    {key : String}
    {value : α}
    (found : (dictionary.insertAll entries).get? key = some value) :
    (key, value) ∈ entries ∨ dictionary.get? key = some value := by
  induction entries generalizing dictionary with
  | nil =>
      exact .inr found
  | cons entry rest inductionHypothesis =>
      rcases inductionHypothesis found with member | before
      · exact .inl (List.mem_cons_of_mem entry member)
      · rw [get?_insert] at before
        split at before
        · rename_i same
          have isEntry : (key, value) = entry :=
            Prod.ext same.symm (Option.some.inj before).symm
          exact .inl (isEntry ▸ List.mem_cons_self)
        · exact .inr before

theorem find?_eq_none_of_notMem
    {entries : List (String × α)}
    {key : String}
    (absent : key ∉ entries.map Prod.fst) :
    find? entries key = none := by
  induction entries with
  | nil =>
      rfl
  | cons entry rest inductionHypothesis =>
      rw [List.map_cons, List.mem_cons, not_or] at absent
      obtain ⟨notFirst, notLater⟩ := absent
      rw [find?, if_neg (Ne.symm notFirst)]
      exact inductionHypothesis notLater

/-- A list without repeated keys writes its own values and keeps all others. -/
theorem get?_insertAll
    {dictionary : Dictionary α}
    {entries : List (String × α)}
    (distinct : (entries.map Prod.fst).Nodup)
    (key : String) :
    (dictionary.insertAll entries).get? key =
      (find? entries key).or (dictionary.get? key) := by
  induction entries generalizing dictionary with
  | nil =>
      rfl
  | cons entry rest inductionHypothesis =>
      obtain ⟨written, value⟩ := entry
      obtain ⟨notAgain, restDistinct⟩ := List.nodup_cons.mp distinct
      have later :
          ((dictionary.insert written value).insertAll rest).get? key =
            (find? rest key).or
              ((dictionary.insert written value).get? key) :=
        inductionHypothesis restDistinct
      rw [get?_insert] at later
      by_cases same : written = key
      · subst same
        rw [find?_eq_none_of_notMem notAgain, if_pos rfl] at later
        rw [find?, if_pos rfl]
        exact later
      · rw [if_neg same] at later
        rw [find?, if_neg same]
        exact later

/-- Of two layers the upper one decides about its own keys. -/
theorem get?_overlay
    (below above : Dictionary α)
    (key : String) :
    (below.overlay above).get? key =
      (above.get? key).or (below.get? key) :=
  get?_insertAll above.nodup key

theorem get?_map
    {β : Type}
    (dictionary : Dictionary α)
    (change : α → β)
    (key : String) :
    (dictionary.map change).get? key =
      (dictionary.get? key).map change := by
  have onEntries
      (entries : List (String × α)) :
      find? (entries.map fun entry => (entry.1, change entry.2)) key =
        (find? entries key).map change := by
    induction entries with
    | nil =>
        rfl
    | cons entry rest inductionHypothesis =>
        rw [List.map_cons, find?, find?, inductionHypothesis]
        split <;> rfl
  exact onEntries dictionary.entries

/-- Writing a list gives a value to every key of the list and takes none away. -/
theorem contains_insertAll
    {dictionary : Dictionary α}
    {entries : List (String × α)}
    {key : String} :
    (dictionary.insertAll entries).contains key = true ↔
      key ∈ entries.map Prod.fst ∨ dictionary.contains key = true := by
  induction entries generalizing dictionary with
  | nil =>
      simp [insertAll]
  | cons entry rest inductionHypothesis =>
      have written :
          ((dictionary.insert entry.1 entry.2).insertAll rest).contains
                key = true ↔
            key ∈ rest.map Prod.fst ∨
              (dictionary.insert entry.1 entry.2).contains key = true :=
        inductionHypothesis
      rw [contains_insert, Bool.or_eq_true, decide_eq_true_eq,
        or_left_comm, ← or_assoc, eq_comm (a := entry.1)] at written
      rw [List.map_cons, List.mem_cons]
      exact written

/-- The upper of two layers gives a value to its own keys. -/
theorem contains_overlay_of_above
    {below above : Dictionary α}
    {key : String}
    (inAbove : above.contains key = true) :
    (below.overlay above).contains key = true := by
  obtain ⟨value, found⟩ := Option.isSome_iff_exists.mp inAbove
  rw [contains, get?_overlay, found, Option.some_or, Option.isSome_some]

/-- A text found among the texts of a list is one of them. -/
theorem mem_of_text?_ofTexts
    {entries : List (String × String)}
    {key content : String}
    (found : (ofTexts entries).text? key = some content) :
    (key, content) ∈ entries := by
  rw [text?, Option.map_eq_some_iff] at found
  obtain ⟨value, isValue, isContent⟩ := found
  rcases mem_or_get?_of_get?_insertAll isValue with member | nothing
  · obtain ⟨entry, isEntry, written⟩ := List.mem_map.mp member
    cases written
    subst isContent
    exact isEntry
  · cases nothing

theorem text?_insertText
    (definitions : Definitions)
    (key wanted content : String) :
    (definitions.insertText key content).text? wanted =
      if key = wanted then some content
      else definitions.text? wanted := by
  rw [text?, insertText, get?_insert]
  split <;> rfl

end CatalogSite.Dictionary
