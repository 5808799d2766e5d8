import CatalogSite.Proofs.Text.LowercaseParts
import CatalogSite.Text.Blank

namespace CatalogSite.Text

/-!
# Words and their lowercase forms

A word of a text stands between blanks or at an end of the text. A blank is no letter,
and it is not passed over when a letter is looked for, so that no sigma of a word sees
beyond the word. Hence the lowercase form of a text holds the forms of its words.
-/

variable {separates : Char → Bool} {text piece first : List Char}
  {others : List (List Char)}

/-- A piece of a text reaches from one separator, or the beginning, to the next one. -/
structure StandsBetween
    (separates : Char → Bool)
    (before piece after text : List Char) :
    Prop where
  joined : text = before ++ piece ++ after
  leftEdge : ∀ c, before.getLast? = some c → separates c = true
  rightEdge : ∀ c, after.head? = some c → separates c = true

namespace StandsBetween

variable {before after : List Char} {c : Char}

theorem cons
    (stands : StandsBetween separates before piece after text)
    (notFirst : before ≠ [] ∨ separates c = true) :
    StandsBetween separates (c :: before) piece after (c :: text) where
  joined := by
    rw [stands.joined, List.cons_append, List.cons_append]
  leftEdge := by
    intro last isLast
    cases before with
    | nil =>
        cases isLast
        exact notFirst.resolve_left fun nonempty => nonempty rfl
    | cons next more =>
        rw [List.getLast?_cons_cons] at isLast
        exact stands.leftEdge last isLast
  rightEdge := stands.rightEdge

theorem extend
    (stands : StandsBetween separates [] piece after text) :
    StandsBetween separates [] (c :: piece) after (c :: text) where
  joined := by
    rw [stands.joined]
    rfl
  leftEdge := stands.leftEdge
  rightEdge := stands.rightEdge

end StandsBetween

/-- The pieces of a divided text: the first begins the text, and the others do not. -/
theorem standsBetween_of_splitOnP
    (divided : text.splitOnP separates = first :: others) :
    (∃ after, StandsBetween separates [] first after text) ∧
      ∀ piece ∈ others,
        ∃ before after,
          before ≠ [] ∧
            StandsBetween separates before piece after text := by
  induction text generalizing first others with
  | nil =>
      cases divided
      refine ⟨⟨[], rfl, ?_, ?_⟩, ?_⟩
      · intro c isLast
        cases isLast
      · intro c isFirst
        cases isFirst
      · intro piece member
        cases member
  | cons c rest inductionHypothesis =>
      obtain ⟨restFirst, restOthers, restDivided⟩ :=
        List.exists_cons_of_ne_nil (List.splitOnP_ne_nil separates rest)
      obtain ⟨⟨after, begins⟩, follow⟩ := inductionHypothesis restDivided
      have later
          (piece : List Char)
          (member : piece ∈ restOthers) :
          ∃ before after,
            before ≠ [] ∧
              StandsBetween separates before piece after (c :: rest) := by
        obtain ⟨before, after, nonempty, stands⟩ := follow piece member
        exact
          ⟨c :: before, after, List.cons_ne_nil c before,
            stands.cons (.inl nonempty)⟩
      rw [List.splitOnP_cons_eq_if_modifyHead, restDivided] at divided
      by_cases isSeparator : separates c = true
      · rw [if_pos isSeparator] at divided
        cases divided
        refine ⟨⟨c :: rest, rfl, ?_, ?_⟩, ?_⟩
        · intro last isLast
          cases isLast
        · rintro head ⟨⟩
          exact isSeparator
        · intro piece member
          rcases List.mem_cons.mp member with rfl | inOthers
          · exact
              ⟨[c], after, List.cons_ne_nil c [],
                begins.cons (.inr isSeparator)⟩
          · exact later piece inOthers
      · rw [if_neg isSeparator] at divided
        cases divided
        exact ⟨⟨after, begins.extend⟩, later⟩

theorem exists_standsBetween
    (member : piece ∈ text.splitOnP separates) :
    ∃ before after,
      StandsBetween separates before piece after text := by
  obtain ⟨first, others, divided⟩ :=
    List.exists_cons_of_ne_nil (List.splitOnP_ne_nil separates text)
  obtain ⟨⟨after, begins⟩, follow⟩ := standsBetween_of_splitOnP divided
  rw [divided] at member
  rcases List.mem_cons.mp member with rfl | inOthers
  · exact ⟨[], after, begins⟩
  · obtain ⟨before, after, -, stands⟩ := follow piece inOthers
    exact ⟨before, after, stands⟩

/-- The code points of all blanks. -/
def blankCodes : List Nat :=
  List.range' 0x9 5 ++ [0x20, 0x85, 0xA0, 0x1680] ++
    List.range' 0x2000 11 ++ [0x2028, 0x2029, 0x202F, 0x205F, 0x3000]

theorem toNat_mem_blankCodes
    {c : Char}
    (blank : isBlank c = true) :
    c.toNat ∈ blankCodes := by
  simp only [isBlank, Bool.or_eq_true, Bool.and_eq_true, decide_eq_true_eq,
    beq_iff_eq] at blank
  simp only [blankCodes, List.mem_append, List.mem_range'_1, List.mem_cons,
    List.not_mem_nil, or_false]
  omega

/-- A blank is no letter, and no letter behind it is looked for. -/
theorem startsCased_of_blank
    {c : Char}
    (blank : isBlank c = true)
    (rest : List Char) :
    startsCased (c :: rest) = false := by
  have inData :
      ∀ n ∈ blankCodes,
        inRanges n caseIgnorableRanges = false ∧
          inRanges n casedRanges = false := by
    decide +kernel
  obtain ⟨counts, uncased⟩ := inData c.toNat (toNat_mem_blankCodes blank)
  rw [startsCased_cons, isCaseIgnorable, counts, if_neg Bool.false_ne_true]
  exact uncased

/-- What begins with a blank or not at all does not begin with a letter. -/
theorem startsCased_of_blank_head
    (blankHead : ∀ c, text.head? = some c → isBlank c = true) :
    startsCased text = false := by
  cases text with
  | nil =>
      exact startsCased_nil
  | cons c rest =>
      exact startsCased_of_blank (blankHead c rfl) rest

/-- The lowercase form of a text holds the form of each of its words. -/
theorem isInfix_of_mem_words
    {word : List Char}
    (member : word ∈ words text) :
    lowercaseChars word <:+: lowercaseChars text := by
  obtain ⟨before, after, stands⟩ :=
    exists_standsBetween (List.mem_filter.mp member).1
  have leftUncased : startsCased before.reverse = false := by
    apply startsCased_of_blank_head
    intro c isHead
    rw [List.head?_reverse] at isHead
    exact stands.leftEdge c isHead
  have rightUncased : startsCased after = false :=
    startsCased_of_blank_head stands.rightEdge
  rw [stands.joined]
  exact isInfix_of_uncased leftUncased rightUncased word

end CatalogSite.Text
