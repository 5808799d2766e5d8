import CatalogSite.Proofs.Dictionary.Lookup
import CatalogSite.Proofs.Number.Characters
import CatalogSite.Proofs.Text.Markup

namespace CatalogSite

/-!
# Definitions without markup

Definitions are free of markup when all of their texts are. It is enough to look at the
definitions that are texts, since no number shows markup, and definitions stay free of
markup when texts without markup are written or laid over them.
-/

namespace Text

/-- No character of a number is markup. -/
theorem markupFree_number
    (value : NumberValue) :
    MarkupFree (String.ofList value.text) := by
  intro c member
  rw [String.toList_ofList] at member
  have isMark := isNumberMark_of_mem_text member
  cases marked : isMarkup c with
  | false =>
      rfl
  | true =>
      simp only [isMarkup, Bool.or_eq_true, beq_iff_eq] at marked
      rcases marked with (rfl | rfl) | rfl <;> cases isMark

end Text

/-- Every text of some definitions is free of markup. -/
def Definitions.MarkupFree
    (definitions : Definitions) :
    Prop :=
  ∀ key content,
    definitions.text? key = some content →
    Text.MarkupFree content

/-- Definitions without markup that give a text to each of some keys. -/
structure Definitions.CleanlyDefine
    (keys : List String)
    (definitions : Definitions) :
    Prop where
  defined : ∀ key ∈ keys, definitions.contains key = true
  clean : definitions.MarkupFree

namespace Definitions

variable {definitions below above : Definitions}

/-- Only the definitions that are texts can hold markup. -/
theorem markupFree_of_texts
    (cleanTexts :
      ∀ key content,
        definitions.get? key = some (.text content) →
        Text.MarkupFree content) :
    definitions.MarkupFree := by
  intro key content defined
  obtain ⟨value, found, rfl⟩ := Option.map_eq_some_iff.mp defined
  cases value with
  | text content =>
      exact cleanTexts key content found
  | number value =>
      exact Text.markupFree_number value

theorem markupFree_ofTexts
    {entries : List (String × String)}
    (clean : ∀ entry ∈ entries, Text.MarkupFree entry.2) :
    MarkupFree (Dictionary.ofTexts entries) := by
  intro key content defined
  exact clean (key, content) (Dictionary.mem_of_text?_ofTexts defined)

theorem MarkupFree.insertText
    {content : String}
    (clean : definitions.MarkupFree)
    (cleanContent : Text.MarkupFree content)
    (key : String) :
    MarkupFree (definitions.insertText key content) := by
  intro wanted found defined
  rw [Dictionary.text?_insertText] at defined
  split at defined
  · rwa [← Option.some.inj defined]
  · exact clean wanted found defined

theorem MarkupFree.overlay
    (cleanBelow : below.MarkupFree)
    (cleanAbove : above.MarkupFree) :
    MarkupFree (Dictionary.overlay below above) := by
  intro key content defined
  rw [Dictionary.text?, Dictionary.get?_overlay] at defined
  cases inAbove : above.get? key with
  | none =>
      rw [inAbove, Option.none_or] at defined
      exact cleanBelow key content defined
  | some value =>
      rw [inAbove, Option.some_or, ← inAbove] at defined
      exact cleanAbove key content defined

end Definitions

end CatalogSite
