import CatalogSite.Content.Visit
import CatalogSite.Text.Escape

namespace CatalogSite

/-!
# Texts without markup

Escaped text holds neither angle brackets nor double quotes. A text that is put
together holds none exactly when its parts hold none, so the address of a logo is
as safe as the two slices that name its directories.
-/

namespace Text

/-- No character of a text could open a tag or end a quoted attribute. -/
def MarkupFree
    (text : String) :
    Prop :=
  ∀ c ∈ text.toList, isMarkup c = false

instance
    (text : String) :
    Decidable (MarkupFree text) :=
  decidable_of_iff (text.toList.all (!isMarkup ·) = true)
    (by simp [MarkupFree])

/-- Escaping leaves no markup in any text. -/
theorem markupFree_escape
    (text : String) :
    MarkupFree (escape text) := by
  intro c member
  rw [escape, String.toList_ofList] at member
  obtain ⟨written, -, inside⟩ := List.mem_flatMap.mp member
  exact isMarkup_of_mem_escapeChar inside

theorem escapeChar_of_not_isMarkup
    {c : Char}
    (plain : isMarkup c = false) :
    escapeChar c = [c] := by
  simp only [isMarkup, Bool.or_eq_false_iff, beq_eq_false_iff_ne] at plain
  obtain ⟨⟨notOpening, notClosing⟩, notQuote⟩ := plain
  rw [escapeChar, if_neg notOpening, if_neg notClosing, if_neg notQuote]

/-- Characters without markup are written as they are. -/
theorem escapeChars_eq_self
    {text : List Char}
    (plain : ∀ c ∈ text, isMarkup c = false) :
    escapeChars text = text := by
  induction text with
  | nil =>
      rfl
  | cons c rest inductionHypothesis =>
      obtain ⟨plainFirst, plainRest⟩ := List.forall_mem_cons.mp plain
      rw [escapeChars, List.flatMap_cons,
        escapeChar_of_not_isMarkup plainFirst]
      exact congrArg (c :: ·) (inductionHypothesis plainRest)

theorem escape_eq_self
    {text : String}
    (free : MarkupFree text) :
    escape text = text := by
  rw [escape, escapeChars_eq_self free, String.ofList_toList]

/-- Two texts in a row are free of markup when both are. -/
theorem markupFree_append
    {first second : String} :
    MarkupFree (first ++ second) ↔
      MarkupFree first ∧ MarkupFree second := by
  simp [MarkupFree, or_imp, forall_and]

end Text

/-- The address of a logo has the markup of its base, its two directories and its file. -/
theorem markupFree_logoAddress
    {base directoryId fileId : String}
    (cleanBase : Text.MarkupFree base)
    (cleanFile : Text.MarkupFree fileId) :
    Text.MarkupFree (logoAddress base directoryId fileId) ↔
      Text.MarkupFree
          (String.ofList (Text.byteSlice 0 2 directoryId.toList)) ∧
        Text.MarkupFree
          (String.ofList (Text.byteSlice 2 4 directoryId.toList)) := by
  have directory : Text.MarkupFree "/Logos/" := by
    decide
  have separator : Text.MarkupFree "/" := by
    decide
  have extension : Text.MarkupFree ".png" := by
    decide
  simp only [logoAddress, Text.markupFree_append, cleanBase, cleanFile,
    directory, separator, extension, true_and, and_true]

end CatalogSite
