import CatalogSite.Proofs.Dictionary.Layers
import CatalogSite.Proofs.Text.Markup
import Mathlib.Data.Finset.Card

namespace CatalogSite

/-!
# Definitions as finite maps

A finite map has values at finitely many keys and no order. Its operations say which value
wins: the last one written, the one of the upper layer, the changed one. Every sequence of
steps does to definitions what it does to the finite map that they hold, so all reads after
the steps are those of the finite map, and the order in which a dictionary lists its keys
is never seen. Escaping respects layers and is done once and for all, so definitions can be
escaped when they are loaded and layered afterwards.
-/

/-- A finite map from texts. -/
structure FiniteMap (α : Type) where
  value? : String → Option α
  keys : Finset String
  mem_keys : ∀ key, key ∈ keys ↔ (value? key).isSome = true

namespace FiniteMap

variable {α : Type}

/-- A finite map is determined by its values. -/
theorem ext_value?
    {first second : FiniteMap α}
    (sameValues : ∀ key, first.value? key = second.value? key) :
    first = second := by
  have sameKeys : first.keys = second.keys := by
    ext key
    rw [first.mem_keys, second.mem_keys, sameValues]
  cases first
  cases second
  cases funext sameValues
  cases sameKeys
  rfl

/-! ## Operations -/

/-- Give a key a value. -/
def write
    (map : FiniteMap α)
    (key : String)
    (value : α) :
    FiniteMap α where
  value? wanted := if key = wanted then some value else map.value? wanted
  keys := insert key map.keys
  mem_keys wanted := by
    rw [Finset.mem_insert, map.mem_keys]
    by_cases same : key = wanted
    · simp [same]
    · simp [same, Ne.symm same]

/-- A map under another one, which decides about its own keys. -/
def under
    (below above : FiniteMap α) :
    FiniteMap α where
  value? key := (above.value? key).or (below.value? key)
  keys := above.keys ∪ below.keys
  mem_keys key := by
    rw [Finset.mem_union, above.mem_keys, below.mem_keys,
      Option.isSome_or, Bool.or_eq_true]

/-- Change every value. -/
def mapValues
    (map : FiniteMap α)
    (change : α → α) :
    FiniteMap α where
  value? key := (map.value? key).map change
  keys := map.keys
  mem_keys key := by
    rw [map.mem_keys, Option.isSome_map]

/-- The finite map that a dictionary holds. -/
def ofDictionary
    (dictionary : Dictionary α) :
    FiniteMap α where
  value? := dictionary.get?
  keys := dictionary.keys.toFinset
  mem_keys key := by
    rw [List.mem_toFinset, ← Dictionary.contains_iff_mem_keys,
      Dictionary.contains]

/-- A text with its special characters written out, or a number as it is. -/
def escapedValue : Definition → Definition
  | .text content => .text (Text.escape content)
  | .number value => .number value

/-- What a step does to a finite map. -/
def after
    (map : FiniteMap Definition) :
    DefinitionStep → FiniteMap Definition
  | .insert key value => map.write key value
  | .overlay above => map.under (ofDictionary above)
  | .merge above => map.under (ofDictionary above)
  | .escape => map.mapValues escapedValue

/-- What a sequence of steps does to a finite map. -/
def run
    (map : FiniteMap Definition)
    (steps : List DefinitionStep) :
    FiniteMap Definition :=
  steps.foldl after map

/-- All reads of definitions are those of a finite map. -/
structure Describes
    (map : FiniteMap Definition)
    (definitions : Definitions) : Prop where
  get? : ∀ key, definitions.get? key = map.value? key
  text? :
    ∀ key, definitions.text? key = (map.value? key).map Definition.asText
  contains : ∀ key, definitions.contains key = true ↔ key ∈ map.keys
  isEmpty : definitions.isEmpty = true ↔ map.keys = ∅
  size : definitions.size = map.keys.card

/-! ## Steps -/

theorem describes_ofDictionary
    (definitions : Definitions) :
    (ofDictionary definitions).Describes definitions where
  get? _ := rfl
  text? _ := rfl
  contains key := by
    rw [Dictionary.contains_iff_mem_keys]
    exact List.mem_toFinset.symm
  isEmpty := by
    rw [ofDictionary, List.toFinset_eq_empty_iff, Dictionary.keys,
      List.map_eq_nil_iff, Dictionary.isEmpty, List.isEmpty_iff]
  size := by
    have card : definitions.keys.toFinset.card = definitions.keys.length :=
      List.toFinset_card_of_nodup definitions.nodup
    rw [ofDictionary, card, Dictionary.keys, List.length_map,
      Dictionary.size]

theorem ofDictionary_overlay
    (below above : Dictionary α) :
    ofDictionary (below.overlay above) =
      (ofDictionary below).under (ofDictionary above) :=
  ext_value? (Dictionary.get?_overlay below above)

theorem escapedValue_eq_escaped
    (value : Definition) :
    escapedValue value = value.escaped := by
  cases value with
  | text content =>
      rfl
  | number value =>
      rfl

theorem ofDictionary_escaped
    (held : Definitions) :
    ofDictionary held.escaped =
      (ofDictionary held).mapValues escapedValue := by
  apply ext_value?
  intro key
  rw [funext escapedValue_eq_escaped]
  exact Dictionary.get?_map held Definition.escaped key

/-- A step does to the held definitions what it does to their finite map. -/
theorem ofDictionary_perform
    (held : Definitions)
    (step : DefinitionStep) :
    ofDictionary (step.perform held) = (ofDictionary held).after step := by
  cases step with
  | insert key value =>
      exact ext_value? fun wanted =>
        Dictionary.get?_insert held key wanted value
  | overlay above =>
      exact ofDictionary_overlay held above
  | merge above =>
      exact ofDictionary_overlay held above
  | escape =>
      exact ofDictionary_escaped held

theorem ofDictionary_run
    (held : Definitions)
    (steps : List DefinitionStep) :
    ofDictionary (held.run steps) = (ofDictionary held).run steps := by
  induction steps generalizing held with
  | nil =>
      rfl
  | cons step rest inductionHypothesis =>
      have first := ofDictionary_perform held step
      have later := inductionHypothesis (step.perform held)
      rw [first] at later
      exact later

/-! ## Order of the entries -/

/-- The order in which a dictionary lists its entries does not matter to its finite map. -/
theorem ofDictionary_eq_of_perm
    {first second : Dictionary α}
    (reordered : first.entries.Perm second.entries) :
    ofDictionary first = ofDictionary second := by
  apply ext_value?
  intro key
  apply Option.ext
  intro value
  exact (Dictionary.find?_eq_some_iff first.nodup).trans
    (reordered.mem_iff.trans
      (Dictionary.find?_eq_some_iff second.nodup).symm)

end FiniteMap

/-! ## Escaping and layering -/

namespace Definition

/-- Escaping a value again changes nothing. -/
theorem escaped_escaped
    (value : Definition) :
    value.escaped.escaped = value.escaped := by
  cases value with
  | text content =>
      exact congrArg text (Text.escape_eq_self (Text.markupFree_escape content))
  | number value =>
      rfl

/-- Escaping neither makes nor changes a number. -/
theorem escaped_eq_number_iff
    {value : Definition}
    {wanted : NumberValue} :
    value.escaped = .number wanted ↔ value = .number wanted := by
  cases value with
  | text content =>
      simp [escaped]
  | number value =>
      exact Iff.rfl

end Definition

namespace Dictionary

/-- What laying definitions over others satisfies. -/
structure LayersDefinitions
    (lay : Definitions → Definitions → Definitions) : Prop where
  assoc :
    ∀ lowest middle highest,
      lay (lay lowest middle) highest = lay lowest (lay middle highest)
  self : ∀ definitions, lay definitions definitions = definitions
  again :
    ∀ below above, lay (lay below above) above = lay below above
  escaped :
    ∀ below above,
      (lay below above).escaped = lay below.escaped above.escaped

theorem layersDefinitions_overlay :
    LayersDefinitions overlay where
  assoc := overlay_assoc
  self := overlay_self
  again := overlay_overlay_self
  escaped := map_overlay Definition.escaped

/-- What escaping definitions satisfies. -/
structure EscapesDefinitions
    (escape : Definitions → Definitions) : Prop where
  again : ∀ definitions, escape (escape definitions) = escape definitions
  keys : ∀ definitions, (escape definitions).keys = definitions.keys
  numbers :
    ∀ definitions key value,
      (escape definitions).get? key = some (.number value) ↔
        definitions.get? key = some (.number value)

theorem escapesDefinitions_escaped :
    EscapesDefinitions escaped where
  again definitions := by
    apply ext_get?
    · simp only [escaped, keys_map]
    · intro key
      simp only [escaped, get?_map, Option.map_map]
      exact congrArg (Option.map · _) (funext Definition.escaped_escaped)
  keys := keys_map Definition.escaped
  numbers definitions key value := by
    rw [escaped, get?_map, Option.map_eq_some_iff]
    simp only [Definition.escaped_eq_number_iff, exists_eq_right]

/--
Definitions are finite maps in which the last write wins, under escaping.

After every sequence of steps all reads are those of the finite map of the steps. Laying
and moving give the same finite map, in whatever order the upper entries are visited; both
can be grouped at will and repeated without effect. Escaping is done once and for all, keeps
the keys and the numbers, and goes through layers.
-/
theorem definitions_form_finite_map :
    (∀ (held : Definitions) steps,
      ((FiniteMap.ofDictionary held).run steps).Describes (held.run steps)) ∧
    (∀ below above other : Definitions,
      above.entries.Perm other.entries →
      FiniteMap.ofDictionary (below.overlay above) =
        FiniteMap.ofDictionary (below.merge other)) ∧
    LayersDefinitions overlay ∧
    LayersDefinitions merge ∧
    EscapesDefinitions escaped := by
  refine ⟨?_, ?_, layersDefinitions_overlay, layersDefinitions_overlay,
    escapesDefinitions_escaped⟩
  · intro held steps
    rw [← FiniteMap.ofDictionary_run]
    exact FiniteMap.describes_ofDictionary (held.run steps)
  · intro below above other reordered
    rw [merge_eq_overlay, FiniteMap.ofDictionary_overlay,
      FiniteMap.ofDictionary_overlay,
      FiniteMap.ofDictionary_eq_of_perm reordered]

/-- What is held is escaped, what is laid over it is not, and the order does not matter. -/
theorem definitions_form_finite_map_escaped_below :
    let held : Definitions := ofTexts [("title", "<old>"), ("note", "a < b")]
    let upper : Definitions := ofTexts [("title", "<new>"), ("tag", "x")]
    let other : Definitions := ofTexts [("tag", "x"), ("title", "<new>")]
    let steps : List DefinitionStep :=
      [.insert "year" (.ofNat 1996), .escape, .overlay upper]
    let after := (FiniteMap.ofDictionary held).run steps
    after.Describes (held.run steps) ∧
      (after.value? "note" = some (.text "a &lt; b") ∧
        after.value? "year" = some (.ofNat 1996) ∧
        after.value? "title" = some (.text "<new>")) ∧
      upper.entries.Perm other.entries ∧
      FiniteMap.ofDictionary (held.overlay upper) =
        FiniteMap.ofDictionary (held.merge other) := by
  intro held upper other steps after
  have reordered : upper.entries.Perm other.entries := by
    decide
  exact
    ⟨definitions_form_finite_map.1 held steps, by decide, reordered,
      definitions_form_finite_map.2.1 held upper other reordered⟩

end Dictionary

end CatalogSite
