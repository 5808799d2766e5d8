import CatalogSite.Proofs.Template.BaseText
import CatalogSite.Proofs.Text.ByteSlices
import CatalogSite.Template.ReferenceSearch

namespace CatalogSite.Template

/-!
# References by a look-ahead pattern

A plain reference is a match of one pattern: a dollar sign and digits, not directly followed
by an opening brace. The pattern is greedy and goes back, so that of the digits before a brace
all but the last one match. Replacing its matches from the left is what the first pass does,
and it is what the replacement by slices does, all of whose slices exist.
-/

/--
The digits that the pattern matches behind a dollar sign, and the text behind them.

A further digit is tried first. Only where that fails does the match end here, unless a brace
is opened.
-/
def lookAhead? : List Char → Option (List Char × List Char)
  | [] => none
  | c :: rest =>
      if c.isDigit then
        match lookAhead? rest with
        | some (digits, after) => some (c :: digits, after)
        | none => if rest.head? = some '\x7b' then none else some ([c], rest)
      else
        none

/--
A text with the matches of the pattern replaced, from the left.

A match is replaced as a whole, and every character where none begins is copied.
-/
inductive Replaces
    (meaning : List Char → List Char) :
    List Char → List Char → Prop where
  | nil :
      Replaces meaning [] []
  | reference {rest digits after out : List Char} :
      lookAhead? rest = some (digits, after) →
      Replaces meaning after out →
      Replaces meaning ('$' :: rest) (meaning digits ++ out)
  | copied {c : Char} {rest out : List Char} :
      (c = '$' → lookAhead? rest = none) →
      Replaces meaning rest out →
      Replaces meaning (c :: rest) (c :: out)

/-! ## What stands behind a dollar sign -/

/-- One digit or more. -/
structure IsRun
    (digits : List Char) : Prop where
  nonempty : digits ≠ []
  isDigit : ∀ c ∈ digits, c.isDigit = true

/-- The text does not go on with a digit. -/
def EndsRun
    (text : List Char) : Prop :=
  ∀ c, text.head? = some c → c.isDigit = false

theorem endsRun_brace
    (after : List Char) :
    EndsRun ('\x7b' :: after) := by
  intro c first
  cases first
  decide

theorem Apart.endsRun
    {after : List Char}
    (apart : Apart after) :
    EndsRun after :=
  fun c first => (apart c first).1

theorem exists_run
    (text : List Char) :
    ∃ run after,
      text = run ++ after ∧
        (∀ c ∈ run, c.isDigit = true) ∧ EndsRun after := by
  refine
    ⟨text.takeWhile Char.isDigit, text.dropWhile Char.isDigit,
      List.takeWhile_append_dropWhile.symm, ?_, ?_⟩
  · intro c member
    exact List.all_eq_true.mp List.all_takeWhile c member
  · intro c first
    have stopped := List.head?_dropWhile_not Char.isDigit text
    rw [first] at stopped
    simpa using stopped

/--
Induction along the references of a text.

A character is no dollar sign; or it is one without digits, or with a single digit before a
brace, and there is no reference in either case; or its digits are a reference, all of them
or all but the last one before a brace.
-/
theorem reference_induction
    {motive : List Char → Prop}
    (nil : motive [])
    (other :
      ∀ c rest, c ≠ '$' → motive rest → motive (c :: rest))
    (bare :
      ∀ rest, EndsRun rest → motive rest → motive ('$' :: rest))
    (single :
      ∀ digit after,
        digit.isDigit = true →
          motive ('\x7b' :: after) →
            motive ('$' :: digit :: '\x7b' :: after))
    (whole :
      ∀ digits after,
        IsRun digits →
          Apart after →
            motive after → motive ('$' :: (digits ++ after)))
    (shortened :
      ∀ digits last after,
        IsRun digits →
          last.isDigit = true →
            motive ('\x7b' :: after) →
              motive ('$' :: (digits ++ last :: '\x7b' :: after)))
    (text : List Char) :
    motive text := by
  induction size : text.length using Nat.strongRecOn generalizing text with
  | _ bound shorter =>
      have later
          (rest : List Char)
          (less : rest.length < text.length) :
          motive rest :=
        shorter rest.length (size ▸ less) rest rfl
      cases text with
      | nil =>
          exact nil
      | cons c rest =>
          by_cases isDollar : c = '$'
          · subst isDollar
            obtain ⟨run, after, rfl, isDigit, ends⟩ := exists_run rest
            rcases List.eq_nil_or_concat run with rfl | ⟨digits, last, rfl⟩
            · exact bare after ends (later after (Nat.lt_succ_self _))
            rw [List.concat_eq_append] at isDigit later ⊢
            by_cases opens : after.head? = some '\x7b'
            · obtain ⟨more, rfl⟩ := List.head?_eq_some_iff.mp opens
              have moreHolds : motive ('\x7b' :: more) :=
                later _ (by simp; omega)
              obtain ⟨digitsOnly, lastOnly⟩ :=
                List.forall_mem_append.mp isDigit
              have lastIsDigit : last.isDigit = true :=
                lastOnly last List.mem_cons_self
              rw [List.append_assoc, List.singleton_append]
              by_cases noOthers : digits = []
              · subst noOthers
                exact single last more lastIsDigit moreHolds
              · exact
                  shortened digits last more ⟨noOthers, digitsOnly⟩
                    lastIsDigit moreHolds
            · refine
                whole (digits ++ [last]) after ⟨by simp, isDigit⟩ ?_
                  (later after (by simp; omega))
              intro first isFirst
              exact
                ⟨ends first isFirst,
                  fun isBrace => opens (isBrace ▸ isFirst)⟩
          · exact other c rest isDollar (later rest (Nat.lt_succ_self _))

section Pattern

variable {digits after text : List Char} {digit : Char}

theorem lookAhead?_of_endsRun
    (ends : EndsRun text) :
    lookAhead? text = none := by
  cases text with
  | nil =>
      rfl
  | cons c rest =>
      rw [lookAhead?, ends c rfl]
      rfl

/-- A single digit before a brace does not match. -/
theorem lookAhead?_single
    (isDigit : digit.isDigit = true)
    (after : List Char) :
    lookAhead? (digit :: '\x7b' :: after) = none := by
  rw [lookAhead?, if_pos isDigit, lookAhead?_of_endsRun (endsRun_brace after)]
  rfl

/-- Digits match up to where neither more of them match nor a brace is opened. -/
theorem lookAhead?_append
    (isRun : IsRun digits)
    (stops : lookAhead? after = none)
    (free : after.head? ≠ some '\x7b') :
    lookAhead? (digits ++ after) = some (digits, after) := by
  obtain ⟨nonempty, isDigit⟩ := isRun
  induction digits with
  | nil =>
      exact absurd rfl nonempty
  | cons c rest inductionHypothesis =>
      obtain ⟨first, restDigits⟩ := List.forall_mem_cons.mp isDigit
      rw [List.cons_append, lookAhead?, if_pos first]
      by_cases last : rest = []
      · subst last
        rw [List.nil_append, stops]
        exact if_neg free
      · rw [inductionHypothesis last restDigits]

/-- All digits match where something else than a brace follows them. -/
theorem lookAhead?_whole
    (isRun : IsRun digits)
    (apart : Apart after) :
    lookAhead? (digits ++ after) = some (digits, after) := by
  exact
    lookAhead?_append isRun (lookAhead?_of_endsRun apart.endsRun)
      fun opens => (apart _ opens).2 rfl

/-- The last digit is given back to a brace. -/
theorem lookAhead?_shortened
    (isRun : IsRun digits)
    (isDigit : digit.isDigit = true)
    (after : List Char) :
    lookAhead? (digits ++ digit :: '\x7b' :: after) =
      some (digits, digit :: '\x7b' :: after) := by
  refine lookAhead?_append isRun (lookAhead?_single isDigit after) ?_
  intro opens
  obtain rfl := Option.some.inj opens
  cases isDigit

end Pattern

section FirstPass

variable {meaning : List Char → List Char}

/-- A dollar sign without digits passes unchanged. -/
theorem substitutePlain_bare
    {rest : List Char}
    (ends : EndsRun rest) :
    substitutePlain meaning none ('$' :: rest) =
      '$' :: substitutePlain meaning none rest := by
  rw [substitutePlain, if_pos rfl]
  cases rest with
  | nil =>
      rfl
  | cons c more =>
      have noDigit : c.isDigit = false :=
        ends c rfl
      simp [substitutePlain, noDigit, referenceText]

/-- Of the digits before a brace the last one is copied. -/
theorem substitutePlain_shortened
    {digits : List Char}
    {last : Char}
    (isRun : IsRun digits)
    (isDigit : last.isDigit = true)
    (after : List Char) :
    substitutePlain meaning none
        ('$' :: (digits ++ last :: '\x7b' :: after)) =
      meaning digits ++
        last :: substitutePlain meaning none ('\x7b' :: after) := by
  have noDigit : ('\x7b').isDigit = false := by
    decide
  have given :
      referenceText meaning (digits ++ [last]) (some '\x7b') =
        meaning digits ++ [last] := by
    rw [referenceText, if_pos rfl, List.dropLast_concat,
      List.getLast?_concat]
    cases digits with
    | nil =>
        exact absurd rfl isRun.nonempty
    | cons c others =>
        rfl
  rw [substitutePlain, if_pos rfl, substitutePlain_digits isRun.isDigit,
    List.nil_append]
  simp [substitutePlain, isDigit, noDigit, given]

/-- No match begins with a digit. -/
theorem Replaces.digit
    {digit : Char}
    {rest out : List Char}
    (isDigit : digit.isDigit = true)
    (replaces : Replaces meaning rest out) :
    Replaces meaning (digit :: rest) (digit :: out) := by
  refine .copied ?_ replaces
  rintro rfl
  cases isDigit

theorem replaces_substitutePlain
    (text : List Char) :
    Replaces meaning text (substitutePlain meaning none text) := by
  induction text using reference_induction with
  | nil =>
      exact .nil
  | other c rest noDollar inductionHypothesis =>
      rw [substitutePlain, if_neg noDollar]
      exact .copied (fun isDollar => absurd isDollar noDollar)
        inductionHypothesis
  | bare rest ends inductionHypothesis =>
      rw [substitutePlain_bare ends]
      exact .copied (fun _ => lookAhead?_of_endsRun ends)
        inductionHypothesis
  | single digit after isDigit inductionHypothesis =>
      rw [substitutePlain_wrap isDigit]
      exact .copied (fun _ => lookAhead?_single isDigit after)
        (.digit isDigit inductionHypothesis)
  | whole digits after isRun apart inductionHypothesis =>
      rw [substitutePlain_reference isRun.nonempty isRun.isDigit apart]
      exact .reference (lookAhead?_whole isRun apart) inductionHypothesis
  | shortened digits last after isRun isDigit inductionHypothesis =>
      rw [substitutePlain_shortened isRun isDigit]
      exact .reference (lookAhead?_shortened isRun isDigit after)
        (.digit isDigit inductionHypothesis)

end FirstPass

/-- A text is replaced in one way only. -/
theorem Replaces.unique
    {meaning : List Char → List Char}
    {text first second : List Char}
    (replaces : Replaces meaning text first)
    (replacesToo : Replaces meaning text second) :
    first = second := by
  induction replaces generalizing second with
  | nil =>
      cases replacesToo
      rfl
  | reference matched _ inductionHypothesis =>
      cases replacesToo with
      | reference matchedToo laterToo =>
          rw [matched] at matchedToo
          cases matchedToo
          rw [inductionHypothesis laterToo]
      | copied unmatched _ =>
          rw [unmatched rfl] at matched
          cases matched
  | copied unmatched _ inductionHypothesis =>
      cases replacesToo with
      | reference matched _ =>
          rw [unmatched rfl] at matched
          cases matched
      | copied _ laterToo =>
          rw [inductionHypothesis laterToo]

theorem replaces_iff
    {meaning : List Char → List Char}
    {text out : List Char} :
    Replaces meaning text out ↔ out = substitutePlain meaning none text := by
  constructor
  · intro replaces
    exact replaces.unique (replaces_substitutePlain text)
  · rintro rfl
    exact replaces_substitutePlain text

end CatalogSite.Template
