import CatalogSite.Proofs.Template.BaseText

namespace CatalogSite.Template

/-!
# Where the second pass finds wraps

The second pass goes through whatever the first one has written. It leaves a text alone
that holds no wrap; in any other text it finds a last wrap, and the text behind that one
stays as it is. Two texts can be passed one after the other when no wrap reaches from the
first one into the second, as when the first one ends with a closing brace.
-/

/-- The digits and the inner text of a wrap, as the second pass reads them. -/
structure IsWrap
    (digits inner : List Char) : Prop where
  nonempty : digits ≠ []
  isDigit : ∀ c ∈ digits, c.isDigit = true
  stays : StaysInBraces inner

/-- How a wrap is written behind its dollar sign. -/
def writtenWrap
    (digits inner : List Char) :
    List Char :=
  digits ++ '\x7b' :: (inner ++ ['\x7d'])

theorem dropLast_writtenWrap
    (digits inner : List Char) :
    (writtenWrap digits inner).dropLast = digits ++ '\x7b' :: inner := by
  have grouped :
      writtenWrap digits inner =
        (digits ++ '\x7b' :: inner) ++ ['\x7d'] := by
    simp [writtenWrap]
  rw [grouped, List.dropLast_concat]

theorem getLast?_writtenWrap
    (digits inner : List Char) :
    (writtenWrap digits inner).getLast? = some '\x7d' := by
  simp [writtenWrap, List.getLast?_append, List.getLast?_cons]

/-- The only closing brace of a wrap is its last character. -/
theorem IsWrap.notMem
    {digits inner : List Char}
    (isWrap : IsWrap digits inner) :
    '\x7d' ∉ digits ++ '\x7b' :: inner := by
  intro member
  rcases List.mem_append.mp member with inDigits | inTail
  · exact absurd (isWrap.isDigit _ inDigits) (by decide)
  · rcases List.mem_cons.mp inTail with isOpening | inInner
    · exact absurd isOpening (by decide)
    · exact (isWrap.stays _ inInner).1 rfl

/-- A wrap stands somewhere in a text. -/
def HoldsWrap
    (text : List Char) : Prop :=
  ∃ digits inner,
    IsWrap digits inner ∧ '$' :: writtenWrap digits inner <:+: text

theorem braced?_eq_some_iff
    {text inner after : List Char} :
    braced? text = some (inner, after) ↔
      text = inner ++ '\x7d' :: after ∧ StaysInBraces inner := by
  constructor
  · intro found
    induction text generalizing inner with
    | nil =>
        cases found
    | cons c rest inductionHypothesis =>
        rw [braced?] at found
        split at found
        · rename_i isBrace
          cases found
          exact ⟨by rw [isBrace]; rfl, List.forall_mem_nil _⟩
        · rename_i noBrace
          split at found
          · cases found
          · rename_i noBreak
            obtain ⟨⟨inside, behind⟩, foundRest, equal⟩ :=
              Option.map_eq_some_iff.mp found
            obtain ⟨rfl, rfl⟩ := Prod.mk.inj equal
            obtain ⟨rfl, stays⟩ := inductionHypothesis foundRest
            exact
              ⟨rfl, List.forall_mem_cons.mpr ⟨⟨noBrace, noBreak⟩, stays⟩⟩
  · rintro ⟨rfl, stays⟩
    exact braced?_append stays after

/-- What is read as a wrap stands at the front of the text. -/
theorem wrapping?_eq_some_iff
    {text digits inner after : List Char} :
    wrapping? text = some (digits, inner, after) ↔
      text = writtenWrap digits inner ++ after ∧ IsWrap digits inner := by
  constructor
  · intro found
    simp only [wrapping?] at found
    split at found
    · cases found
    · rename_i someDigits
      split at found
      · rename_i rest divided
        obtain ⟨⟨inside, behind⟩, foundRest, equal⟩ :=
          Option.map_eq_some_iff.mp found
        simp only [Prod.mk.injEq] at equal
        obtain ⟨rfl, rfl, rfl⟩ := equal
        obtain ⟨rfl, stays⟩ := braced?_eq_some_iff.mp foundRest
        have allDigits :
            ∀ c ∈ text.takeWhile Char.isDigit, c.isDigit = true :=
          fun c member => List.all_eq_true.mp List.all_takeWhile c member
        refine ⟨?_, by simpa using someDigits, allDigits, stays⟩
        calc
          text = text.takeWhile Char.isDigit ++
              text.dropWhile Char.isDigit :=
            List.takeWhile_append_dropWhile.symm
          _ = _ := by
            rw [divided]
            simp [writtenWrap]
      · cases found
  · rintro ⟨rfl, isWrap⟩
    have read :=
      wrapping?_append isWrap.nonempty isWrap.isDigit isWrap.stays after
    simpa [writtenWrap] using read

theorem holdsWrap_cons
    {c : Char}
    {rest : List Char} :
    HoldsWrap (c :: rest) ↔
      (c = '$' ∧ (wrapping? rest).isSome) ∨ HoldsWrap rest := by
  constructor
  · rintro ⟨digits, inner, isWrap, isInfix⟩
    rcases List.infix_cons_iff.mp isInfix with isPrefix | inRest
    · obtain ⟨isDollar, after, rfl⟩ := List.cons_prefix_cons.mp isPrefix
      have read :
          wrapping? (writtenWrap digits inner ++ after) =
            some (digits, inner, after) :=
        wrapping?_eq_some_iff.mpr ⟨rfl, isWrap⟩
      exact .inl ⟨isDollar.symm, by rw [read]; rfl⟩
    · exact .inr ⟨digits, inner, isWrap, inRest⟩
  · rintro (⟨rfl, read⟩ | ⟨digits, inner, isWrap, inRest⟩)
    · obtain ⟨⟨digits, inner, after⟩, found⟩ := Option.isSome_iff_exists.mp read
      obtain ⟨rfl, isWrap⟩ := wrapping?_eq_some_iff.mp found
      refine ⟨digits, inner, isWrap, List.IsPrefix.isInfix ⟨after, rfl⟩⟩
    · exact ⟨digits, inner, isWrap, List.infix_cons inRest⟩

theorem not_holdsWrap_nil :
    ¬ HoldsWrap [] := by
  rintro ⟨digits, inner, -, isInfix⟩
  simp at isInfix

theorem holdsWrap_append_of_notMem
    {text after : List Char}
    (noDollar : '$' ∉ text) :
    HoldsWrap (text ++ after) ↔ HoldsWrap after := by
  induction text with
  | nil =>
      rfl
  | cons c rest inductionHypothesis =>
      obtain ⟨different, restFree⟩ : c ≠ '$' ∧ '$' ∉ rest := by
        simpa [eq_comm] using noDollar
      rw [List.cons_append, holdsWrap_cons, inductionHypothesis restFree]
      simp [different]

/-- A wrap has a dollar sign and two braces. -/
theorem HoldsWrap.mem
    {text : List Char}
    {c : Char}
    (holds : HoldsWrap text)
    (isMark : c ∈ ['$', '\x7b', '\x7d']) :
    c ∈ text := by
  obtain ⟨digits, inner, -, isInfix⟩ := holds
  refine isInfix.subset ?_
  simp only [List.mem_cons, List.not_mem_nil, or_false] at isMark
  rcases isMark with rfl | rfl | rfl <;> simp [writtenWrap]

instance decidableHoldsWrap :
    (text : List Char) → Decidable (HoldsWrap text)
  | [] => .isFalse not_holdsWrap_nil
  | _ :: rest =>
      have := decidableHoldsWrap rest
      decidable_of_iff _ holdsWrap_cons.symm

section Passing

variable
  {meaning : List Char → List Char → List Char}
  {text : List Char}

/-- A text without wraps passes unchanged. -/
theorem substituteWraps_of_not_holdsWrap
    (noWrap : ¬ HoldsWrap text) :
    substituteWraps meaning text = text := by
  induction text with
  | nil =>
      exact substituteWraps_nil
  | cons c rest inductionHypothesis =>
      rw [holdsWrap_cons, not_or] at noWrap
      have restSame := inductionHypothesis noWrap.2
      by_cases isDollar : c = '$'
      · have notRead : wrapping? rest = none := by
          simpa [isDollar] using noWrap.1
        rw [isDollar, substituteWraps_of_none notRead, restSame]
      · rw [substituteWraps_cons_of_ne isDollar, restSame]

/--
The last wrap that the second pass replaces in a text.

Behind it the text stays as it is, and what comes before it does not vanish.
-/
structure LastWrap
    (meaning : List Char → List Char → List Char)
    (text : List Char) where
  front : List Char
  written : List Char
  digits : List Char
  inner : List Char
  tail : List Char
  isWrap : IsWrap digits inner
  shape : text = front ++ '$' :: (writtenWrap digits inner ++ tail)
  passed :
    substituteWraps meaning text = written ++ (meaning digits inner ++ tail)
  vanishes : written = [] → front = []

namespace LastWrap

/-- A wrap at the front is the last one when no other follows it. -/
def only
    {digits inner after : List Char}
    (isWrap : IsWrap digits inner)
    (later : ¬ HoldsWrap after) :
    LastWrap meaning ('$' :: (writtenWrap digits inner ++ after)) where
  front := []
  written := []
  digits := digits
  inner := inner
  tail := after
  isWrap := isWrap
  shape := rfl
  passed := by
    have found :
        wrapping? (writtenWrap digits inner ++ after) =
          some (digits, inner, after) :=
      wrapping?_eq_some_iff.mpr ⟨rfl, isWrap⟩
    rw [substituteWraps_of_some found,
      substituteWraps_of_not_holdsWrap later, List.nil_append]
  vanishes := fun _ => rfl

/-- The last wrap of a text is still the last one with something passed before it. -/
def behind
    {rest front written : List Char}
    (last : LastWrap meaning rest)
    (shape : text = front ++ rest)
    (passed :
      substituteWraps meaning text =
        written ++ substituteWraps meaning rest)
    (someWritten : written ≠ []) :
    LastWrap meaning text where
  front := front ++ last.front
  written := written ++ last.written
  digits := last.digits
  inner := last.inner
  tail := last.tail
  isWrap := last.isWrap
  shape := by
    rw [List.append_assoc, ← last.shape, shape]
  passed := by
    rw [List.append_assoc, ← last.passed, passed]
  vanishes := fun vanished =>
    absurd (List.append_eq_nil_iff.mp vanished).1 someWritten

/-- A character that passes unchanged may stand before everything. -/
def cons
    {c : Char}
    {rest : List Char}
    (last : LastWrap meaning rest)
    (passed :
      substituteWraps meaning (c :: rest) =
        c :: substituteWraps meaning rest) :
    LastWrap meaning (c :: rest) :=
  last.behind List.singleton_append.symm
    (passed.trans List.singleton_append.symm) (List.cons_ne_nil c [])

/-- Where passing changes nothing, the last wrap means something that ends with a brace. -/
theorem getLast?_meaning
    (last : LastWrap meaning text)
    (someMeaning : meaning last.digits last.inner ≠ [])
    (same : substituteWraps meaning text = text) :
    (meaning last.digits last.inner).getLast? = some '\x7d' := by
  have upToTail :
      last.written ++ meaning last.digits last.inner ++ last.tail =
        last.front ++ ['$'] ++ writtenWrap last.digits last.inner ++
          last.tail := by
    calc
      _ = substituteWraps meaning text := by
        rw [last.passed, List.append_assoc]
      _ = text :=
        same
      _ = _ := by
        rw [List.append_assoc, List.append_assoc, List.singleton_append,
          ← last.shape]
  have lastSame :=
    congrArg List.getLast? (List.append_cancel_right upToTail)
  rw [List.getLast?_append, List.getLast?_append,
    getLast?_writtenWrap] at lastSame
  cases isLast : (meaning last.digits last.inner).getLast? with
  | none =>
      exact absurd (List.getLast?_eq_none_iff.mp isLast) someMeaning
  | some c =>
      simpa [isLast] using lastSame

end LastWrap

/-- A text that holds a wrap has a last one, since no meaning is empty. -/
theorem nonempty_lastWrap
    (someMeaning : ∀ digits inner, meaning digits inner ≠ [])
    (holds : HoldsWrap text) :
    Nonempty (LastWrap meaning text) := by
  induction text using substituteWraps.induct with
  | case1 =>
      exact absurd holds not_holdsWrap_nil
  | case2 rest digits inner after found _ inductionHypothesis =>
      have passed :
          substituteWraps meaning ('$' :: rest) =
            meaning digits inner ++ substituteWraps meaning after :=
        substituteWraps_of_some found
      obtain ⟨rfl, isWrap⟩ := wrapping?_eq_some_iff.mp found
      by_cases later : HoldsWrap after
      · obtain ⟨last⟩ := inductionHypothesis later
        exact
          ⟨last.behind List.cons_append.symm passed
            (someMeaning digits inner)⟩
      · exact ⟨LastWrap.only isWrap later⟩
  | case3 rest found inductionHypothesis =>
      have inRest : HoldsWrap rest := by
        simpa [holdsWrap_cons, found] using holds
      obtain ⟨last⟩ := inductionHypothesis inRest
      exact ⟨last.cons (substituteWraps_of_none found)⟩
  | case4 c rest isDollar inductionHypothesis =>
      have inRest : HoldsWrap rest := by
        simpa [holdsWrap_cons, isDollar] using holds
      obtain ⟨last⟩ := inductionHypothesis inRest
      exact ⟨last.cons (substituteWraps_cons_of_ne isDollar rest)⟩

end Passing

section Border

variable {text after : List Char}

/-- No wrap begins in one text and ends in the text behind it. -/
def NoWrapAcross
    (text after : List Char) : Prop :=
  ∀ digits inner front back,
    IsWrap digits inner →
      '$' :: writtenWrap digits inner = front ++ back →
        front <:+ text →
          back <+: after →
            front = [] ∨ back = []

theorem NoWrapAcross.of_suffix
    {shorter : List Char}
    (border : NoWrapAcross text after)
    (isSuffix : shorter <:+ text) :
    NoWrapAcross shorter after := by
  intro digits inner front back isWrap shape atEnd atFront
  exact
    border digits inner front back isWrap shape (atEnd.trans isSuffix)
      atFront

/-- What is read as a wrap in front of such a border does not reach beyond it. -/
theorem wrapping?_append_of_noWrapAcross
    (border : NoWrapAcross ('$' :: text) after) :
    wrapping? (text ++ after) =
      (wrapping? text).map fun (digits, inner, rest) =>
        (digits, inner, rest ++ after) := by
  cases found : wrapping? text with
  | some read =>
      obtain ⟨digits, inner, rest⟩ := read
      obtain ⟨rfl, isWrap⟩ := wrapping?_eq_some_iff.mp found
      exact
        wrapping?_eq_some_iff.mpr ⟨List.append_assoc _ _ _, isWrap⟩
  | none =>
      cases foundBeyond : wrapping? (text ++ after) with
      | none =>
          rfl
      | some read =>
          obtain ⟨digits, inner, rest⟩ := read
          obtain ⟨shape, isWrap⟩ := wrapping?_eq_some_iff.mp foundBeyond
          have inText : ∃ more, text = writtenWrap digits inner ++ more := by
            rcases List.append_eq_append_iff.mp shape with
              ⟨back, wrapShape, afterShape⟩ | ⟨more, textShape, -⟩
            · have split :
                  '$' :: writtenWrap digits inner =
                    ('$' :: text) ++ back := by
                rw [wrapShape, List.cons_append]
              rcases border digits inner ('$' :: text) back isWrap split
                  List.suffix_rfl ⟨rest, afterShape.symm⟩ with
                nothing | whole
              · cases nothing
              · refine ⟨[], ?_⟩
                rw [wrapShape, whole, List.append_nil, List.append_nil]
            · exact ⟨more, textShape⟩
          obtain ⟨more, textShape⟩ := inText
          rw [wrapping?_eq_some_iff.mpr ⟨textShape, isWrap⟩] at found
          cases found

/-- Two texts with such a border between them are passed one after the other. -/
theorem substituteWraps_append_of_noWrapAcross
    {meaning : List Char → List Char → List Char}
    (border : NoWrapAcross text after) :
    substituteWraps meaning (text ++ after) =
      substituteWraps meaning text ++ substituteWraps meaning after := by
  fun_induction substituteWraps meaning text with
  | case1 =>
      rfl
  | case2 rest digits inner behind found _ inductionHypothesis =>
      have read := wrapping?_append_of_noWrapAcross border
      rw [found] at read
      obtain ⟨rfl, -⟩ := wrapping?_eq_some_iff.mp found
      have isSuffix :
          behind <:+ '$' :: (writtenWrap digits inner ++ behind) :=
        (List.suffix_append _ _).trans (List.suffix_cons _ _)
      rw [List.cons_append, substituteWraps_of_some read,
        inductionHypothesis (border.of_suffix isSuffix),
        List.append_assoc]
  | case3 rest found inductionHypothesis =>
      have read := wrapping?_append_of_noWrapAcross border
      rw [found] at read
      rw [List.cons_append, substituteWraps_of_none read,
        inductionHypothesis
          (border.of_suffix (List.suffix_cons _ rest))]
      rfl
  | case4 c rest isDollar inductionHypothesis =>
      rw [List.cons_append, substituteWraps_cons_of_ne isDollar,
        inductionHypothesis
          (border.of_suffix (List.suffix_cons c rest))]
      rfl

/-- A wrap in two texts with such a border stands in one of them. -/
theorem holdsWrap_append_of_noWrapAcross
    (border : NoWrapAcross text after) :
    HoldsWrap (text ++ after) ↔ HoldsWrap text ∨ HoldsWrap after := by
  induction text with
  | nil =>
      simp [not_holdsWrap_nil]
  | cons c rest inductionHypothesis =>
      have restIff :=
        inductionHypothesis (border.of_suffix (List.suffix_cons c rest))
      rw [List.cons_append, holdsWrap_cons, holdsWrap_cons, restIff, or_assoc]
      refine or_congr_left (and_congr_right fun isDollar => ?_)
      subst isDollar
      rw [wrapping?_append_of_noWrapAcross border]
      simp

/-- A text that is empty or ends with a closing brace. -/
def EndsClosed
    (text : List Char) : Prop :=
  ∀ c, text.getLast? = some c → c = '\x7d'

/-- No wrap goes on behind a closing brace, which would be its end. -/
theorem EndsClosed.noWrapAcross
    (closed : EndsClosed text)
    (after : List Char) :
    NoWrapAcross text after := by
  intro digits inner front back isWrap shape atEnd _
  by_cases someFront : front = []
  · exact .inl someFront
  by_cases someBack : back = []
  · exact .inr someBack
  exfalso
  have inside :
      '$' :: (digits ++ '\x7b' :: inner) = front ++ back.dropLast := by
    have shorter := congrArg List.dropLast shape
    rwa [List.dropLast_append_of_ne_nil someBack,
      List.dropLast_cons_of_ne_nil (by simp [writtenWrap]),
      dropLast_writtenWrap] at shorter
  have isLast : front.getLast? = some '\x7d' := by
    obtain ⟨earlier, rfl⟩ := atEnd
    cases last : front.getLast? with
    | none =>
        exact absurd (List.getLast?_eq_none_iff.mp last) someFront
    | some c =>
        rw [closed c (by rw [List.getLast?_append, last]; rfl)]
  have member : '\x7d' ∈ '$' :: (digits ++ '\x7b' :: inner) := by
    rw [inside]
    exact List.mem_append_left _ (List.mem_of_getLast? isLast)
  rcases List.mem_cons.mp member with isDollar | inWrap
  · exact absurd isDollar (by decide)
  · exact isWrap.notMem inWrap

end Border

end CatalogSite.Template
