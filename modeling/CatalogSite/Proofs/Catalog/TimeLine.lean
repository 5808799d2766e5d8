import CatalogSite.Catalog.Filter
import CatalogSite.Proofs.Catalog.Platforms

namespace CatalogSite

/-!
# Dates on the time line

Dates are texts in the order of their code points, and a value names the stretch of dates
that begin with it. Nothing that begins with a value stands before the value, so that the
dates before a value are exactly those that neither stand behind it nor begin with it. The
three date filters thus cover the time line, and an entry without a date is not on it.
-/

theorem Text.not_precedes_of_isPrefix
    {beginning text : String}
    (isPrefix : beginning.toList <+: text.toList) :
    ¬ Text.Precedes text beginning := by
  rw [precedes_iff, String.lt_iff]
  exact isPrefix.le

theorem Text.precedes_iff_not_precedes_and_not_isPrefix
    {text value : String} :
    Text.Precedes text value ↔
      ¬ Text.Precedes value text ∧ ¬ value.toList <+: text.toList := by
  constructor
  · intro before
    constructor
    · rw [precedes_iff] at before ⊢
      exact Std.not_gt_of_lt before
    · intro isPrefix
      exact not_precedes_of_isPrefix isPrefix before
  · rintro ⟨notBehind, noPrefix⟩
    rw [precedes_iff] at notBehind ⊢
    -- The text is not the value itself, which begins with itself.
    rcases Std.lt_trichotomy text value with before | same | behind
    · exact before
    · exact (noPrefix (same ▸ List.prefix_rfl)).elim
    · exact (notBehind behind).elim

namespace Filter

section Dated

variable {game : Game} {field : SearchField} {date : String}

theorem dateIn_of_dated
    (first : (field.texts game).head? = some date)
    (nonempty : date ≠ "")
    (test : String → Bool) :
    dateIn game field test = test date := by
  obtain ⟨others, shape⟩ := List.head?_eq_some_iff.mp first
  have notEmpty : date.isEmpty = false := by
    simpa using nonempty
  simp [dateIn, SearchField.date?, shape, notEmpty]

theorem dateIn_of_undated
    (undated : ∀ date, (field.texts game).head? = some date → date = "")
    (test : String → Bool) :
    dateIn game field test = false := by
  cases shape : field.texts game with
  | nil =>
      simp [dateIn, SearchField.date?, shape]
  | cons date others =>
      have isEmpty : date = "" :=
        undated date (by rw [shape, List.head?_cons])
      simp [dateIn, SearchField.date?, shape, isEmpty]

end Dated

/--
The date filters for a value cover the time line.

In an entry with a date, one filter asks whether the date stands before the value, one
whether it stands behind it, and one whether it begins with it. The first one admits the
entry exactly when neither of the others does. So one of them always admits it, and never
the first one together with the last one. An entry without a date is admitted by none.
-/
theorem dates_cover_time_line
    (game : Game)
    (field : SearchField)
    (value : String) :
    (∀ date,
      (field.texts game).head? = some date →
        date ≠ "" →
          (((before field value).admits game = true ↔
              Text.Precedes date value) ∧
            ((after field value).admits game = true ↔
              Text.Precedes value date) ∧
            ((on field value).admits game = true ↔
              value.toList <+: date.toList)) ∧
          ((before field value).admits game = true ↔
            (after field value).admits game = false ∧
              (on field value).admits game = false) ∧
          ((before field value).admits game = true ∨
            (after field value).admits game = true ∨
              (on field value).admits game = true) ∧
          ¬ ((before field value).admits game = true ∧
            (on field value).admits game = true)) ∧
      ((∀ date, (field.texts game).head? = some date → date = "") →
        (before field value).admits game = false ∧
          (after field value).admits game = false ∧
            (on field value).admits game = false) := by
  constructor
  · intro date first nonempty
    have admitsBefore :
        (before field value).admits game = true ↔
          Text.Precedes date value := by
      rw [admits, dateIn_of_dated first nonempty, decide_eq_true_eq,
        Text.precedes_iff]
    have admitsAfter :
        (after field value).admits game = true ↔
          Text.Precedes value date := by
      rw [admits, dateIn_of_dated first nonempty, decide_eq_true_eq,
        Text.precedes_iff]
    have admitsOn :
        (on field value).admits game = true ↔
          value.toList <+: date.toList := by
      rw [admits, dateIn_of_dated first nonempty, Text.startsWith_iff]
      exact exists_congr fun rest => eq_comm
    have divides :
        (before field value).admits game = true ↔
          (after field value).admits game = false ∧
            (on field value).admits game = false := by
      rw [← Bool.not_eq_true, ← Bool.not_eq_true, admitsBefore, admitsAfter,
        admitsOn]
      exact Text.precedes_iff_not_precedes_and_not_isPrefix
    refine
      ⟨⟨admitsBefore, admitsAfter, admitsOn⟩, divides, ?_, ?_⟩
    · by_cases isBefore : (before field value).admits game = true
      · exact .inl isBefore
      · rw [divides, not_and_or, Bool.not_eq_false,
          Bool.not_eq_false] at isBefore
        exact .inr isBefore
    · rintro ⟨isBefore, isOn⟩
      rw [(divides.mp isBefore).2] at isOn
      cases isOn
  · intro undated
    exact
      ⟨dateIn_of_undated undated _, dateIn_of_undated undated _,
        dateIn_of_undated undated _⟩

/-- A day in a year stands behind the year and is on it; a year stands before its days. -/
theorem dates_cover_time_line_year :
    let day : Game :=
      { id := "a", title := "A", releaseDate := "2005-10-01" }
    let year : Game :=
      { id := "b", title := "B", releaseDate := "2005" }
    let undated : Game :=
      { id := "c", title := "C" }
    (after .releaseDate "2005").admits day = true ∧
      (on .releaseDate "2005").admits day = true ∧
      (before .releaseDate "2005").admits day = false ∧
      (before .releaseDate "2005-10-01").admits year = true ∧
      (on .releaseDate "2005-10-01").admits year = false ∧
      (on .releaseDate "").admits undated = false := by
  intro day year undated
  obtain ⟨⟨-, isBehind, isOn⟩, divides, -, -⟩ :=
    (dates_cover_time_line day .releaseDate "2005").1 "2005-10-01" rfl
      (by decide)
  obtain ⟨⟨isBefore, -, -⟩, dividesYear, -, -⟩ :=
    (dates_cover_time_line year .releaseDate "2005-10-01").1 "2005" rfl
      (by decide)
  have behind : (after .releaseDate "2005").admits day = true :=
    isBehind.mpr (by decide)
  have notBefore : (before .releaseDate "2005").admits day = false := by
    rw [← Bool.not_eq_true, divides]
    rintro ⟨notBehind, -⟩
    rw [behind] at notBehind
    cases notBehind
  have yearBefore :
      (before .releaseDate "2005-10-01").admits year = true :=
    isBefore.mpr (by decide)
  have isUndated
      (date : String)
      (first : (SearchField.releaseDate.texts undated).head? = some date) :
      date = "" :=
    (Option.some.inj first).symm
  exact
    ⟨behind, isOn.mpr (by decide), notBefore, yearBefore,
      (dividesYear.mp yearBefore).2,
      ((dates_cover_time_line undated .releaseDate "").2 isUndated).2.2⟩

end Filter

end CatalogSite
