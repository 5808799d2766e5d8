import CatalogSite.Proofs.Text.Trim
import CatalogSite.Text.Substring

namespace CatalogSite.Text

/-!
# The pieces of a divided text

A text is divided at every separator. Its pieces, put together with separators, are the
text again, so that no two texts have the same pieces, and a text whose pieces come first
among those of another one is the whole front of it up to a separator.
-/

variable {separator : Char} {text other : List Char}

/-- The pieces of a text, each behind a separator, are the text behind one. -/
theorem flatMap_splitOnP
    (separator : Char)
    (text : List Char) :
    (text.splitOnP (· == separator)).flatMap (separator :: ·) =
      separator :: text := by
  induction text with
  | nil =>
      simp
  | cons c rest inductionHypothesis =>
      obtain ⟨piece, pieces, shape⟩ :=
        List.exists_cons_of_ne_nil
          (List.splitOnP_ne_nil (· == separator) rest)
      rw [shape] at inductionHypothesis
      rw [List.splitOnP_cons_eq_if_modifyHead, shape]
      split
      · rename_i isSeparator
        rw [List.flatMap_cons, inductionHypothesis,
          eq_of_beq isSeparator]
        rfl
      · have others :
            piece ++ pieces.flatMap (separator :: ·) = rest :=
          (List.cons.inj inductionHypothesis).2
        rw [List.modifyHead_cons, List.flatMap_cons, ← others]
        rfl

/-- The pieces of a text come first among those of another one where it ends or is divided. -/
theorem splitOnP_isPrefix_iff :
    text.splitOnP (· == separator) <+: other.splitOnP (· == separator) ↔
      other = text ∨ ∃ rest, other = text ++ separator :: rest := by
  constructor
  · rintro ⟨later, shape⟩
    have joined :
        (separator :: text) ++ later.flatMap (separator :: ·) =
          separator :: other := by
      rw [← flatMap_splitOnP separator text,
        ← flatMap_splitOnP separator other, ← shape, List.flatMap_append]
    have behind : text ++ later.flatMap (separator :: ·) = other :=
      (List.cons.inj joined).2
    cases later with
    | nil =>
        left
        rw [← behind, List.flatMap_nil, List.append_nil]
    | cons piece more =>
        right
        exact ⟨piece ++ more.flatMap (separator :: ·), behind.symm⟩
  · rintro (rfl | ⟨rest, rfl⟩)
    · exact List.prefix_rfl
    · rw [List.splitOnP_append_cons text rest (by simp)]
      exact List.prefix_append _ _

/-- A text without empty pieces has a separator at neither of its ends. -/
theorem bare_of_splitOnP
    (nonempty : ∀ piece ∈ text.splitOnP (· == separator), piece ≠ []) :
    Bare (· == separator) text where
  head := by
    intro c isFirst
    apply beq_false_of_ne
    rintro rfl
    obtain ⟨rest, shape⟩ := List.head?_eq_some_iff.mp isFirst
    have pieces :
        text.splitOnP (· == c) = [] :: rest.splitOnP (· == c) := by
      rw [shape]
      exact List.splitOnP_append_cons [] rest (beq_self_eq_true c)
    exact nonempty [] (by rw [pieces]; exact List.mem_cons_self) rfl
  last := by
    intro c isLast
    apply beq_false_of_ne
    rintro rfl
    obtain ⟨front, shape⟩ := List.getLast?_eq_some_iff.mp isLast
    have pieces :
        text.splitOnP (· == c) = front.splitOnP (· == c) ++ [[]] := by
      rw [shape]
      exact List.splitOnP_append_cons front [] (beq_self_eq_true c)
    exact nonempty [] (by rw [pieces]; simp) rfl

end CatalogSite.Text
