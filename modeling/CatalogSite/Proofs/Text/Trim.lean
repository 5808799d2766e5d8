import CatalogSite.Text.Blank
import Mathlib.Data.List.TakeWhile

namespace CatalogSite.Text

/-!
# Trimmed texts

Trimming takes away what surrounds a text, and only that. A text whose ends do not
satisfy the test comes back from between any characters that do, and every text
consists of its trimmed form between such characters.
-/

variable {test : Char → Bool} {left right text : List Char}

/-- Neither the first nor the last character of a text satisfies a test. -/
structure Bare
    (test : Char → Bool)
    (text : List Char) : Prop where
  head : ∀ c, text.head? = some c → test c = false
  last : ∀ c, text.getLast? = some c → test c = false

theorem bare_iff :
    Bare test text ↔
      (text.head?.all fun c => !test c) = true ∧
        (text.getLast?.all fun c => !test c) = true := by
  simp only [Option.all_eq_true, Bool.not_eq_true']
  exact
    ⟨fun bare => ⟨bare.head, bare.last⟩,
      fun ends => ⟨ends.1, ends.2⟩⟩

instance : Decidable (Bare test text) :=
  decidable_of_iff _ bare_iff.symm

theorem dropWhile_of_head
    (bareHead : ∀ c, text.head? = some c → test c = false) :
    text.dropWhile test = text := by
  cases text with
  | nil =>
      rfl
  | cons c rest =>
      exact List.dropWhile_cons_of_neg (by simp [bareHead c rfl])

/-- What is dropped from the end stands behind the last character that stays. -/
theorem dropEndWhile_append
    (bareLast : ∀ c, left.getLast? = some c → test c = false)
    (right : List Char) :
    dropEndWhile test (left ++ right) =
      left ++ dropEndWhile test right := by
  have leftStays : left.reverse.dropWhile test = left.reverse := by
    apply dropWhile_of_head
    simpa using bareLast
  rw [dropEndWhile, dropEndWhile, List.reverse_append, List.dropWhile_append,
    leftStays]
  split
  · rename_i nothingRight
    rw [List.isEmpty_iff.mp nothingRight, List.reverse_reverse,
      List.reverse_nil, List.append_nil]
  · rw [List.reverse_append, List.reverse_reverse]

/-- What surrounds a bare text is dropped from both of its ends. -/
theorem dropEndWhile_dropWhile
    (inLeft : ∀ c ∈ left, test c = true)
    (inRight : ∀ c ∈ right, test c = true)
    (bare : Bare test text) :
    dropEndWhile test ((left ++ text ++ right).dropWhile test) = text := by
  have nothingRight : dropEndWhile test right = [] := by
    rw [dropEndWhile, List.reverse_eq_nil_iff, List.dropWhile_eq_nil_iff]
    intro c member
    exact inRight c (List.mem_reverse.mp member)
  rw [List.append_assoc, List.dropWhile_append_of_pos inLeft]
  cases text with
  | nil =>
      have nothingLeft : right.dropWhile test = [] :=
        List.dropWhile_eq_nil_iff.mpr inRight
      rw [List.nil_append, nothingLeft]
      rfl
  | cons c rest =>
      have stops :
          ((c :: rest) ++ right).dropWhile test = (c :: rest) ++ right := by
        apply dropWhile_of_head
        intro first isFirst
        exact bare.head first isFirst
      rw [stops, dropEndWhile_append bare.last, nothingRight,
        List.append_nil]

/-- Nothing is dropped from a bare text. -/
theorem dropEndWhile_dropWhile_of_bare
    (bare : Bare test text) :
    dropEndWhile test (text.dropWhile test) = text := by
  have nothing : ∀ c ∈ ([] : List Char), test c = true := by
    intro c member
    cases member
  simpa using dropEndWhile_dropWhile nothing nothing bare

theorem trim_padded
    (leftBlank : ∀ c ∈ left, isBlank c = true)
    (rightBlank : ∀ c ∈ right, isBlank c = true)
    (bare : Bare isBlank text) :
    trim (left ++ text ++ right) = text :=
  dropEndWhile_dropWhile leftBlank rightBlank bare

theorem trim_eq_self
    (bare : Bare isBlank text) :
    trim text = text :=
  dropEndWhile_dropWhile_of_bare bare

theorem trim_append_of_blank
    (leftBlank : ∀ c ∈ left, isBlank c = true)
    (text : List Char) :
    trim (left ++ text) = trim text := by
  rw [trim, trimStart, List.dropWhile_append_of_pos leftBlank]
  rfl

/-- Every text is its trimmed form between blanks. -/
theorem exists_padding
    (text : List Char) :
    ∃ left right,
      text = left ++ trim text ++ right ∧
        (∀ c ∈ left, isBlank c = true) ∧
        ∀ c ∈ right, isBlank c = true := by
  let started := trimStart text
  refine
    ⟨text.takeWhile isBlank, (started.reverse.takeWhile isBlank).reverse,
      ?_, ?_, ?_⟩
  · have atEnd :
        trim text ++ (started.reverse.takeWhile isBlank).reverse =
          started := by
      rw [trim, trimEnd, dropEndWhile, ← List.reverse_append,
        List.takeWhile_append_dropWhile, List.reverse_reverse]
    rw [List.append_assoc, atEnd]
    exact List.takeWhile_append_dropWhile.symm
  · intro c member
    exact List.mem_takeWhile_imp member
  · intro c member
    exact List.mem_takeWhile_imp (List.mem_reverse.mp member)

end CatalogSite.Text
