namespace CatalogSite

/-!
# Ordered dictionaries

A dictionary maps texts to values and remembers the order in which its keys were
first written. Writing a key again replaces its value and keeps its place. The
view of a dictionary is the function `get?`, and each operation is described by
what it does to that view.
-/

/-- An ordered finite map whose keys are texts. -/
structure Dictionary (α : Type) where
  entries : List (String × α)
  nodup : (entries.map Prod.fst).Nodup
  deriving DecidableEq

namespace Dictionary

variable {α β : Type}

/-- The first value listed for a key. -/
def find? : List (String × α) → String → Option α
  | [], _ => none
  | (key, value) :: rest, wanted =>
      if key = wanted then some value else find? rest wanted

/-- Replace the value of a key, or list the key last when it is new. -/
def put : List (String × α) → String → α → List (String × α)
  | [], key, value => [(key, value)]
  | (known, old) :: rest, key, value =>
      if known = key then (known, value) :: rest
      else (known, old) :: put rest key value

/--
A key is listed after writing exactly when it was listed or is the written one.
-/
theorem mem_keys_put
    {entries : List (String × α)}
    {key other : String}
    {value : α} :
    other ∈ (put entries key value).map Prod.fst ↔
      other = key ∨ other ∈ entries.map Prod.fst := by
  induction entries with
  | nil => simp [put]
  | cons entry rest inductionHypothesis =>
      obtain ⟨known, old⟩ := entry
      by_cases same : known = key
      · simp [put, same]
      · simp only [put, if_neg same, List.map_cons, List.mem_cons,
          inductionHypothesis]
        constructor
        · rintro (found | found | found) <;> simp [found]
        · rintro (found | found | found) <;> simp [found]

/-- Writing keeps the keys distinct. -/
theorem nodup_put
    {entries : List (String × α)}
    (key : String)
    (value : α)
    (distinct : (entries.map Prod.fst).Nodup) :
    ((put entries key value).map Prod.fst).Nodup := by
  induction entries with
  | nil => simp [put]
  | cons entry rest inductionHypothesis =>
      obtain ⟨known, old⟩ := entry
      rw [List.map_cons, List.nodup_cons] at distinct
      by_cases same : known = key
      · simpa [put, same] using distinct
      · rw [put, if_neg same, List.map_cons, List.nodup_cons]
        refine ⟨?_, inductionHypothesis distinct.2⟩
        rw [mem_keys_put]
        rintro (found | found)
        · exact same found
        · exact distinct.1 found

/-- Looking up after writing. -/
theorem find?_put
    {entries : List (String × α)}
    {key wanted : String}
    {value : α} :
    find? (put entries key value) wanted =
      if key = wanted then some value else find? entries wanted := by
  induction entries with
  | nil => simp [put, find?]
  | cons entry rest inductionHypothesis =>
      obtain ⟨known, old⟩ := entry
      by_cases same : known = key
      · subst same
        by_cases found : known = wanted <;> simp [put, find?, found]
      · by_cases found : known = wanted
        · subst found
          simp [put, find?, same, Ne.symm same]
        · simp [put, find?, same, found, inductionHypothesis]

/-- The dictionary without entries. -/
def empty : Dictionary α where
  entries := []
  nodup := List.nodup_nil

/-- The value of a key. -/
def get?
    (dictionary : Dictionary α)
    (key : String) :
    Option α :=
  find? dictionary.entries key

/-- Whether a key has a value. -/
def contains
    (dictionary : Dictionary α)
    (key : String) :
    Bool :=
  (dictionary.get? key).isSome

/-- The number of keys. -/
def size (dictionary : Dictionary α) : Nat :=
  dictionary.entries.length

/-- Whether there are no keys. -/
def isEmpty (dictionary : Dictionary α) : Bool :=
  dictionary.entries.isEmpty

/-- The keys in the order of their first writing. -/
def keys (dictionary : Dictionary α) : List String :=
  dictionary.entries.map Prod.fst

/-- The values in the order of their keys. -/
def values (dictionary : Dictionary α) : List α :=
  dictionary.entries.map Prod.snd

/-- Write a value under a key. -/
def insert
    (dictionary : Dictionary α)
    (key : String)
    (value : α) :
    Dictionary α where
  entries := put dictionary.entries key value
  nodup := nodup_put key value dictionary.nodup

/-- Write a list of entries, one after the other. -/
def insertAll
    (dictionary : Dictionary α)
    (entries : List (String × α)) :
    Dictionary α :=
  entries.foldl (fun written entry => written.insert entry.1 entry.2) dictionary

/-- The dictionary that a list of entries writes. -/
def ofList (entries : List (String × α)) : Dictionary α :=
  empty.insertAll entries

/-- Lay another dictionary over this one: its keys win. -/
def overlay (below above : Dictionary α) : Dictionary α :=
  below.insertAll above.entries

/-- Change every value, keeping the keys. -/
def map
    (f : α → β)
    (dictionary : Dictionary α) :
    Dictionary β where
  entries := dictionary.entries.map fun entry => (entry.1, f entry.2)
  nodup := by simpa [List.map_map, Function.comp_def] using dictionary.nodup

@[simp] theorem get?_empty
    (key : String) :
    (empty : Dictionary α).get? key = none :=
  rfl

/-- Looking up a key after a write. -/
theorem get?_insert
    (dictionary : Dictionary α)
    (key wanted : String)
    (value : α) :
    (dictionary.insert key value).get? wanted =
      if key = wanted then some value else dictionary.get? wanted :=
  find?_put

end Dictionary

end CatalogSite
