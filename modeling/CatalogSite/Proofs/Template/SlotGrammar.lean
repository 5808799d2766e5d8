import CatalogSite.Proofs.Dictionary.Lookup
import CatalogSite.Template.Parameter

namespace CatalogSite.Template

/-!
# The grammar of slots

A placeholder body is a row of slots, separated by commas, and the blanks in front
of a slot do not count. The grammar says where a slot ends and what it provides
without looking at single characters. The reader of parameters is a machine over
characters; it provides exactly what the grammar provides, unless the first
parameter names no definition, in which case it provides nothing.
-/

/-- A left angle bracket somewhere in a text is directly followed by a slash or a blank. -/
def HoldsClosingOrSpacedTag
    (text : List Char) : Prop :=
  ∃ before next after,
    text = before ++ '<' :: next :: after ∧
      (next = '/' ∨ Text.isBlank next = true)

/-- The test for closing and spaced tags finds them wherever they stand. -/
theorem hasClosingOrSpacedTag_iff
    {text : List Char} :
    hasClosingOrSpacedTag text = true ↔
      HoldsClosingOrSpacedTag text := by
  fun_induction hasClosingOrSpacedTag text with
  | case1 next rest inductionHypothesis =>
      rw [Bool.or_eq_true, inductionHypothesis]
      constructor
      · rintro (atFront | ⟨before, later, after, shape, kind⟩)
        · exact ⟨[], next, rest, rfl, by simpa using atFront⟩
        · exact ⟨'<' :: before, later, after, by simp [shape], kind⟩
      · rintro ⟨before, later, after, shape, kind⟩
        cases before with
        | nil =>
            obtain ⟨rfl, -⟩ : next = later ∧ rest = after := by
              simpa using shape
            exact .inl (by simpa using kind)
        | cons first more =>
            refine .inr ⟨more, later, after, ?_, kind⟩
            exact (List.cons.inj shape).2
  | case2 c rest notTag inductionHypothesis =>
      rw [inductionHypothesis]
      constructor
      · rintro ⟨before, later, after, shape, kind⟩
        exact ⟨c :: before, later, after, by simp [shape], kind⟩
      · rintro ⟨before, later, after, shape, kind⟩
        cases before with
        | nil =>
            obtain ⟨isBracket, restShape⟩ := List.cons.inj shape
            exact (notTag later after isBracket restShape).elim
        | cons first more =>
            exact ⟨more, later, after, (List.cons.inj shape).2, kind⟩
  | case3 =>
      simp [HoldsClosingOrSpacedTag]

instance decidableHoldsClosingOrSpacedTag
    (text : List Char) :
    Decidable (HoldsClosingOrSpacedTag text) :=
  decidable_of_iff _ hasClosingOrSpacedTag_iff

/-- A text consists of blanks. -/
def AllBlank
    (text : List Char) : Prop :=
  ∀ c ∈ text, Text.isBlank c = true

/-- What a slot provides that does not open with a quote. -/
def unquotedParameter
    (definitions : Definitions)
    (body : List Char) :
    Parameter :=
  if body.head? = some '<' then
    if body.getLast? = some '>' ∧ ¬ HoldsClosingOrSpacedTag body then
      .element (String.ofList body.tail.dropLast)
    else
      .invalid
  else if definitions.contains (String.ofList body) then
    .definition (String.ofList body)
  else
    .invalid

/--
The text of one slot, from its first character that is no blank to the comma or
the end behind it, and what it provides.

Behind the closing quote, every character that is no blank provides something
invalid, and these stand before the quoted text.
-/
inductive Slot
    (definitions : Definitions) :
    List Char → List Parameter → Prop where
  | quoted
      {content stray : List Char} :
      '"' ∉ content →
      ',' ∉ stray →
      Slot definitions
        ('"' :: (content ++ '"' :: stray))
        (List.replicate (stray.countP (!Text.isBlank ·)) .invalid ++
          [.text (String.ofList content)])
  | unquoted
      {c : Char}
      {rest : List Char} :
      c ≠ '"' →
      Text.isBlank c = false →
      ',' ∉ c :: rest →
      Slot definitions (c :: rest)
        [unquotedParameter definitions (c :: rest)]

/-- A row of slots, and what they provide. -/
inductive Slots
    (definitions : Definitions) :
    List Char → List Parameter → Prop where
  | nothing
      {blanks : List Char} :
      AllBlank blanks →
      Slots definitions blanks []
  | skipped
      {blanks rest : List Char}
      {later : List Parameter} :
      AllBlank blanks →
      Slots definitions rest later →
      Slots definitions (blanks ++ ',' :: rest) (.invalid :: later)
  | unclosed
      {blanks content : List Char} :
      AllBlank blanks →
      '"' ∉ content →
      Slots definitions (blanks ++ '"' :: content) [.invalid]
  | last
      {blanks slot : List Char}
      {here : List Parameter} :
      AllBlank blanks →
      Slot definitions slot here →
      Slots definitions (blanks ++ slot) here
  | followed
      {blanks slot rest : List Char}
      {here later : List Parameter} :
      AllBlank blanks →
      Slot definitions slot here →
      Slots definitions rest later →
      Slots definitions (blanks ++ (slot ++ ',' :: rest))
        (here ++ later)

/-- A text begins with all blanks before its first other character, if it has one. -/
theorem exists_leading_blanks
    (text : List Char) :
    ∃ blanks, AllBlank blanks ∧
      (text = blanks ∨
        ∃ c rest, text = blanks ++ c :: rest ∧
          Text.isBlank c = false) := by
  induction text with
  | nil =>
      exact ⟨[], by simp [AllBlank], .inl rfl⟩
  | cons c rest inductionHypothesis =>
      cases blank : Text.isBlank c with
      | false =>
          exact ⟨[], by simp [AllBlank], .inr ⟨c, rest, rfl, blank⟩⟩
      | true =>
          obtain ⟨blanks, allBlank, remaining⟩ := inductionHypothesis
          refine ⟨c :: blanks, ?_, ?_⟩
          · simpa [AllBlank, blank] using allBlank
          · rcases remaining with only | ⟨first, more, shape, ink⟩
            · exact .inl (by rw [only])
            · exact .inr ⟨first, more, by rw [shape]; rfl, ink⟩

/--
A slot runs to the next comma or to the end, and more slots may follow the comma.
-/
theorem exists_slots_of_slot
    {definitions : Definitions}
    {blanks opening after : List Char}
    (allBlank : AllBlank blanks)
    (isSlot :
      ∀ stray, ',' ∉ stray →
        ∃ here, Slot definitions (opening ++ stray) here)
    (shorter :
      ∀ rest : List Char, rest.length < after.length →
        ∃ later, Slots definitions rest later) :
    ∃ parameters,
      Slots definitions (blanks ++ (opening ++ after)) parameters := by
  by_cases comma : ',' ∈ after
  · obtain ⟨stray, rest, shape, noComma⟩ :=
      List.eq_append_cons_of_mem comma
    obtain ⟨here, slot⟩ := isSlot stray noComma
    obtain ⟨later, slots⟩ := shorter rest (by
      rw [shape, List.length_append, List.length_cons]
      omega)
    refine ⟨here ++ later, ?_⟩
    rw [shape, ← List.append_assoc opening]
    exact .followed allBlank slot slots
  · obtain ⟨here, slot⟩ := isSlot after comma
    exact ⟨here, .last allBlank slot⟩

/-- Every text is a row of slots. -/
theorem exists_slots
    (definitions : Definitions)
    (text : List Char) :
    ∃ parameters, Slots definitions text parameters := by
  -- By length: what stands behind a comma is again a row of slots, but shorter.
  obtain ⟨blanks, allBlank, only | ⟨c, rest, shape, ink⟩⟩ :=
    exists_leading_blanks text
  · rw [only]
    exact ⟨[], .nothing allBlank⟩
  have restShorter : rest.length < text.length := by
    rw [shape, List.length_append, List.length_cons]
    omega
  rw [shape]
  by_cases isComma : c = ','
  · obtain ⟨later, slots⟩ := exists_slots definitions rest
    rw [isComma]
    exact ⟨.invalid :: later, .skipped allBlank slots⟩
  by_cases isQuote : c = '"'
  · rw [isQuote]
    by_cases closed : '"' ∈ rest
    · obtain ⟨content, after, restShape, noQuote⟩ :=
        List.eq_append_cons_of_mem closed
      have isSlot :
          ∀ stray, ',' ∉ stray →
            ∃ here,
              Slot definitions
                ('"' :: (content ++ ['"']) ++ stray) here := by
        intro stray noComma
        exact ⟨_, by simpa using Slot.quoted noQuote noComma⟩
      have later :
          ∀ more : List Char, more.length < after.length →
            ∃ parameters, Slots definitions more parameters := by
        intro more shorter
        have : more.length < text.length := by
          rw [restShape, List.length_append,
            List.length_cons] at restShorter
          omega
        exact exists_slots definitions more
      simpa [restShape] using
        exists_slots_of_slot allBlank isSlot later
    · exact ⟨[.invalid], .unclosed allBlank closed⟩
  · have isSlot :
        ∀ stray, ',' ∉ stray →
          ∃ here, Slot definitions ([c] ++ stray) here := by
      intro stray noComma
      exact ⟨_, .unquoted isQuote ink (by
        simpa [Ne.symm isComma] using noComma)⟩
    have later :
        ∀ more : List Char, more.length < rest.length →
          ∃ parameters, Slots definitions more parameters := by
      intro more shorter
      have : more.length < text.length := by
        omega
      exact exists_slots definitions more
    simpa using exists_slots_of_slot allBlank isSlot later
termination_by text.length

end CatalogSite.Template
