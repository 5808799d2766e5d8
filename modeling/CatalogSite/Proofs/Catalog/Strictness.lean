import CatalogSite.Proofs.Catalog.LiteralParts
import CatalogSite.Proofs.Text.AsciiCase

namespace CatalogSite.Filter

/-!
# Equality is stricter than containment

The filters for equality forgive the case of ASCII letters alone, and the filters for
containment compare lowercase forms. A text that equals a value in the first sense has the
lowercase form of the value, and so it holds that form. Every game that equality admits is
thus admitted by containment, and every game without the value differs from it.
-/

variable {game : Game} {field : SearchField} {value text : String}

theorem containsLowercase_of_equalsIgnoringAsciiCase
    (same : Text.equalsIgnoringAsciiCase text value = true) :
    containsLowercase (Text.lowercase value) text = true := by
  have sameForm : Text.lowercase text = Text.lowercase value :=
    Text.lowercase_eq_of_equalsIgnoringAsciiCase same
  exact occursIn_iff_isInfix.mpr (sameForm ▸ List.infix_rfl)

theorem containsIn_of_exactlyIn
    (equal : exactlyIn game field value = true) :
    containsIn game field value = true := by
  obtain ⟨text, member, same⟩ := List.any_eq_true.mp equal
  exact
    List.any_eq_true.mpr
      ⟨text, member, containsLowercase_of_equalsIgnoringAsciiCase same⟩

/--
A filter for equality admits no game that the filter for containment leaves out.

The opposite filters stand the other way round: a game that does not hold a value does
not equal it either.
-/
theorem exactly_stricter_than_contains
    (game : Game)
    (field : SearchField)
    (value : String) :
    ((exactly field value).admits game = true →
      (contains field value).admits game = true) ∧
      ((notContains field value).admits game = true →
        (notExactly field value).admits game = true) := by
  constructor
  · exact containsIn_of_exactlyIn
  · intro lacks
    have notContained : containsIn game field value = false := by
      simpa [admits] using lacks
    have notEqual : exactlyIn game field value = false := by
      cases equal : exactlyIn game field value with
      | false =>
          rfl
      | true =>
          rw [containsIn_of_exactlyIn equal] at notContained
          cases notContained
    rw [admits, notEqual, Bool.not_false]

/-- A title with a final sigma equals itself in capitals, and holds no inner sigma there. -/
theorem exactly_stricter_than_contains_sigmas :
    let game : Game := { id := "1", title := "The ΟΔΟΣ" }
    (exactly .title "tHE ΟΔΟΣ").admits game = true ∧
      (contains .title "tHE ΟΔΟΣ").admits game = true ∧
      (notContains .title "οδοσ").admits game = true ∧
      (notExactly .title "οδοσ").admits game = true := by
  intro game
  have equal : (exactly .title "tHE ΟΔΟΣ").admits game = true := by
    decide
  have lacks : (notContains .title "οδοσ").admits game = true := by
    decide
  exact
    ⟨equal, (exactly_stricter_than_contains game _ _).1 equal,
      lacks, (exactly_stricter_than_contains game _ _).2 lacks⟩

end CatalogSite.Filter
