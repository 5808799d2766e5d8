import CatalogSite.Text.Substring

namespace CatalogSite.Text

/-!
# The first separator of a text

Dividing a text at its first separator finds exactly the decompositions of the text
around a separator that has none before it.
-/

variable {separator : Char} {text before after : List Char}

/-- A front without separators goes to the first part as a whole. -/
theorem splitFirst_append_of_notMem
    (free : separator ∉ before)
    (after : List Char) :
    splitFirst separator (before ++ after) =
      (before ++ (splitFirst separator after).1,
        (splitFirst separator after).2) := by
  induction before with
  | nil =>
      rfl
  | cons c rest inductionHypothesis =>
      rw [List.mem_cons, not_or] at free
      rw [List.cons_append, splitFirst, if_neg (Ne.symm free.1),
        inductionHypothesis free.2]
      rfl

theorem splitFirst_append
    (free : separator ∉ before)
    (after : List Char) :
    splitFirst separator (before ++ separator :: after) =
      (before, some after) := by
  rw [splitFirst_append_of_notMem free, splitFirst, if_pos rfl,
    List.append_nil]

theorem splitFirst_of_notMem
    (whole : separator ∉ text) :
    splitFirst separator text = (text, none) := by
  have divided := splitFirst_append_of_notMem whole []
  rw [List.append_nil] at divided
  rw [divided, splitFirst, List.append_nil]

theorem eq_append_of_splitFirst
    (divided : splitFirst separator text = (before, some after)) :
    text = before ++ separator :: after ∧ separator ∉ before := by
  induction text generalizing before with
  | nil =>
      cases divided
  | cons c rest inductionHypothesis =>
      by_cases isSeparator : c = separator
      · rw [splitFirst, if_pos isSeparator] at divided
        cases divided
        exact ⟨by rw [isSeparator, List.nil_append], List.not_mem_nil⟩
      · rw [splitFirst, if_neg isSeparator] at divided
        obtain ⟨rfl, restAfter⟩ := Prod.mk.inj divided
        obtain ⟨restDivided, restFree⟩ :=
          inductionHypothesis (Prod.ext rfl restAfter)
        refine ⟨by rw [List.cons_append, ← restDivided], ?_⟩
        intro member
        rcases List.mem_cons.mp member with same | inRest
        · exact isSeparator same.symm
        · exact restFree inRest

end CatalogSite.Text
