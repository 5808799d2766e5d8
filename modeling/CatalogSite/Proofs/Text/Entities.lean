import CatalogSite.Proofs.Text.Markup

namespace CatalogSite.Text

/-!
# Entities of escaped texts

Escaping writes three marks as entities. Whoever reads the entities of a text from the left
makes the same of the escaped text as of the text itself, since escaping neither breaks an
entity nor lets one arise from what stands around a mark. A text without entities is thus
read from its escaped form, and only such a text is.
-/

/-- The entities that escaping writes. -/
def entities : List (List Char) :=
  ["&lt;".toList, "&gt;".toList, "&quot;".toList]

/-- No entity stands anywhere in a text. -/
def EntityFree
    (text : List Char) : Prop :=
  ∀ entity ∈ entities, ¬ entity <:+: text

instance
    (text : List Char) :
    Decidable (EntityFree text) :=
  inferInstanceAs (Decidable (∀ entity ∈ entities, _))

/-- Read the entities of a text from the left, each as the mark it is written for. -/
def unescapeChars : List Char → List Char
  | '&' :: 'l' :: 't' :: ';' :: rest => '<' :: unescapeChars rest
  | '&' :: 'g' :: 't' :: ';' :: rest => '>' :: unescapeChars rest
  | '&' :: 'q' :: 'u' :: 'o' :: 't' :: ';' :: rest =>
      '"' :: unescapeChars rest
  | c :: rest => c :: unescapeChars rest
  | [] => []

/-- Read the entities of a text. -/
def unescape
    (text : String) : String :=
  String.ofList (unescapeChars text.toList)

section Reading

variable {mark c : Char} {text rest : List Char}

theorem eq_of_isMarkup
    (isMark : isMarkup mark = true) :
    mark = '<' ∨ mark = '>' ∨ mark = '"' := by
  simpa [isMarkup, or_assoc] using isMark

/-- An entity is an ampersand and a tail that holds no other one. -/
theorem exists_tail_of_mem_entities :
    ∀ entity ∈ entities, ∃ tail, entity = '&' :: tail ∧ '&' ∉ tail := by
  intro entity member
  simp only [entities, List.mem_cons, List.not_mem_nil, or_false] at member
  rcases member with rfl | rfl | rfl
  · exact ⟨"lt;".toList, rfl, by decide⟩
  · exact ⟨"gt;".toList, rfl, by decide⟩
  · exact ⟨"quot;".toList, rfl, by decide⟩

theorem escapeChar_mem_entities
    (isMark : isMarkup mark = true) :
    escapeChar mark ∈ entities := by
  rcases eq_of_isMarkup isMark with rfl | rfl | rfl <;> decide

/-- What is written for a mark is read as the mark. -/
theorem unescapeChars_mark
    (isMark : isMarkup mark = true)
    (rest : List Char) :
    unescapeChars (escapeChar mark ++ rest) =
      mark :: unescapeChars rest := by
  rcases eq_of_isMarkup isMark with rfl | rfl | rfl <;> rfl

/-- A character is read as itself where no entity begins. -/
theorem unescapeChars_cons
    (apart : ∀ entity ∈ entities, ¬ entity <+: c :: rest) :
    unescapeChars (c :: rest) = c :: unescapeChars rest := by
  have notFront
      (entity : List Char)
      (member : entity ∈ entities)
      (after : List Char) :
      c :: rest ≠ entity ++ after :=
    fun shape => apart entity member ⟨after, shape.symm⟩
  apply unescapeChars.eq_4
  · rintro after rfl rfl
    exact notFront "&lt;".toList (by decide) after rfl
  · rintro after rfl rfl
    exact notFront "&gt;".toList (by decide) after rfl
  · rintro after rfl rfl
    exact notFront "&quot;".toList (by decide) after rfl

/--
Induction along a reading from the left.

A text is empty, or it begins with what is written for a mark, or with a character where no
entity begins.
-/
theorem entity_induction
    {motive : List Char → Prop}
    (nil : motive [])
    (entity :
      ∀ mark rest,
        isMarkup mark = true →
          motive rest → motive (escapeChar mark ++ rest))
    (other :
      ∀ c rest,
        (∀ entity ∈ entities, ¬ entity <+: c :: rest) →
          motive rest → motive (c :: rest))
    (text : List Char) :
    motive text := by
  induction text using unescapeChars.induct with
  | case1 rest inductionHypothesis =>
      exact entity '<' rest rfl inductionHypothesis
  | case2 rest inductionHypothesis =>
      exact entity '>' rest rfl inductionHypothesis
  | case3 rest inductionHypothesis =>
      exact entity '"' rest rfl inductionHypothesis
  | case4 c rest noOpening noClosing noQuote inductionHypothesis =>
      refine other c rest ?_ inductionHypothesis
      rintro entity member ⟨after, shape⟩
      simp only [entities, List.mem_cons, List.not_mem_nil,
        or_false] at member
      rcases member with rfl | rfl | rfl
      · obtain ⟨isFirst, isRest⟩ := List.cons.inj shape
        exact noOpening after isFirst.symm isRest.symm
      · obtain ⟨isFirst, isRest⟩ := List.cons.inj shape
        exact noClosing after isFirst.symm isRest.symm
      · obtain ⟨isFirst, isRest⟩ := List.cons.inj shape
        exact noQuote after isFirst.symm isRest.symm
  | case5 =>
      exact nil

end Reading

section Escaping

variable {c : Char} {part text rest : List Char}

/-- No written mark continues a part without ampersands. -/
theorem isPrefix_of_isPrefix_escapeChars
    (noAmpersand : '&' ∉ part)
    (isPrefix : part <+: escapeChars text) :
    part <+: text := by
  induction part generalizing text with
  | nil =>
      exact List.nil_prefix
  | cons expected more inductionHypothesis =>
      rw [List.mem_cons, not_or] at noAmpersand
      obtain ⟨notFirst, notLater⟩ := noAmpersand
      cases text with
      | nil =>
          exact isPrefix
      | cons c rest =>
          rw [escapeChars, List.flatMap_cons] at isPrefix
          cases marked : isMarkup c with
          | true =>
              obtain ⟨tail, shape, -⟩ :=
                exists_tail_of_mem_entities _ (escapeChar_mem_entities marked)
              rw [shape, List.cons_append] at isPrefix
              exact absurd (List.cons_prefix_cons.mp isPrefix).1.symm notFirst
          | false =>
              rw [escapeChar_of_not_isMarkup marked] at isPrefix
              obtain ⟨same, later⟩ := List.cons_prefix_cons.mp isPrefix
              exact
                List.cons_prefix_cons.mpr
                  ⟨same, inductionHypothesis notLater later⟩

/-- Reading the entities of an escaped text gives what reading those of the text gives. -/
theorem unescapeChars_escapeChars
    (text : List Char) :
    unescapeChars (escapeChars text) = unescapeChars text := by
  induction text using entity_induction with
  | nil =>
      rfl
  | entity mark rest isMark inductionHypothesis =>
      have unchanged : escapeChars (escapeChar mark) = escapeChar mark :=
        escapeChars_eq_self fun _ => isMarkup_of_mem_escapeChar
      rw [escapeChars_append, unchanged, unescapeChars_mark isMark,
        unescapeChars_mark isMark, inductionHypothesis]
  | other c rest apart inductionHypothesis =>
      rw [unescapeChars_cons apart, escapeChars, List.flatMap_cons,
        ← inductionHypothesis]
      cases marked : isMarkup c with
      | true =>
          exact unescapeChars_mark marked _
      | false =>
          rw [escapeChar_of_not_isMarkup marked]
          refine unescapeChars_cons fun entity member isPrefix => ?_
          -- The tail of an entity could only come from the text itself.
          obtain ⟨tail, rfl, noAmpersand⟩ :=
            exists_tail_of_mem_entities entity member
          obtain ⟨same, later⟩ := List.cons_prefix_cons.mp isPrefix
          exact
            apart ('&' :: tail) member
              (List.cons_prefix_cons.mpr
                ⟨same, isPrefix_of_isPrefix_escapeChars noAmpersand later⟩)

end Escaping

section Lossless

/-- Reading leaves exactly the texts without entities as they are. -/
theorem unescapeChars_eq_self_iff
    {text : List Char} :
    unescapeChars text = text ↔ EntityFree text := by
  induction text using entity_induction with
  | nil =>
      exact iff_of_true rfl (by decide)
  | entity mark rest isMark _ =>
      refine iff_of_false ?_ ?_
      · intro same
        obtain ⟨tail, shape, -⟩ :=
          exists_tail_of_mem_entities _ (escapeChar_mem_entities isMark)
        rw [unescapeChars_mark isMark, shape] at same
        obtain rfl := (List.cons.inj same).1
        cases isMark
      · intro free
        exact
          free _ (escapeChar_mem_entities isMark)
            (List.prefix_append _ _).isInfix
  | other c rest apart inductionHypothesis =>
      rw [unescapeChars_cons apart, List.cons_inj_right, inductionHypothesis]
      refine forall₂_congr fun entity member => not_congr ?_
      rw [List.infix_cons_iff, or_iff_right (apart entity member)]

/-- The escaped form of a text is read as the text exactly when no entity stands in it. -/
theorem unescape_escape_eq_iff
    {text : String} :
    unescape (escape text) = text ↔ EntityFree text.toList := by
  rw [unescape, escape, String.toList_ofList, unescapeChars_escapeChars,
    ← unescapeChars_eq_self_iff, ← String.toList_inj, String.toList_ofList]

/--
Escaping is safe, stable and lossless.

It works part by part, leaves no markup, and does nothing to an escaped text. Reading the
entities of the escaped form gives back exactly the texts that hold no entity themselves, so
that no two such texts are escaped to the same one.
-/
theorem escape_lossless :
    (∀ first second,
      escape (first ++ second) = escape first ++ escape second) ∧
      (∀ text, ∀ c ∈ (escape text).toList, c ≠ '<' ∧ c ≠ '>' ∧ c ≠ '"') ∧
      (∀ text, escape (escape text) = escape text) ∧
      (∀ text, unescape (escape text) = text ↔ EntityFree text.toList) ∧
      ∀ first second,
        EntityFree first.toList →
          EntityFree second.toList →
            first ≠ second → escape first ≠ escape second := by
  refine ⟨?_, ?_, ?_, ?_, ?_⟩
  · intro first second
    rw [escape, String.toList_append, escapeChars_append,
      String.ofList_append]
    rfl
  · intro text c member
    simpa [isMarkup, and_assoc] using markupFree_escape text c member
  · intro text
    exact escape_eq_self (markupFree_escape text)
  · intro text
    exact unescape_escape_eq_iff
  · intro first second freeFirst freeSecond different same
    apply different
    calc
      first = unescape (escape first) :=
        (unescape_escape_eq_iff.mpr freeFirst).symm
      _ = unescape (escape second) := by
        rw [same]
      _ = second :=
        unescape_escape_eq_iff.mpr freeSecond

/--
An entity that a mark interrupts is none, and the mark is read again in its place.

Another mark there makes another escaped text. An entity in the text could stand for a mark.
-/
theorem escape_lossless_interrupted :
    let text := "&l<t; & &amp; &quo\"t;"
    EntityFree text.toList ∧
      escape text = "&l&lt;t; & &amp; &quo&quot;t;" ∧
      unescape "&l&lt;t; & &amp; &quo&quot;t;" = text ∧
      escape text ≠ escape "&l>t; & &amp; &quo\"t;" ∧
      escape "&lt;" = escape "<" := by
  intro text
  have free : EntityFree text.toList := by
    decide +kernel
  have written : escape text = "&l&lt;t; & &amp; &quo&quot;t;" := by
    decide +kernel
  have differs : escape text ≠ escape "&l>t; & &amp; &quo\"t;" :=
    escape_lossless.2.2.2.2 text "&l>t; & &amp; &quo\"t;" free
      (by decide +kernel) (by decide +kernel)
  exact
    ⟨free, written,
      written ▸ (escape_lossless.2.2.2.1 text).mpr free, differs,
      by decide +kernel⟩

end Lossless

end CatalogSite.Text
