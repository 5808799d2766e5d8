import CatalogSite.Text.Lowercase

namespace CatalogSite.Text

/-!
# The lowercase form of a part

The lowercase form of a text consists of the forms of its parts, but for a capital sigma
near the end of a part: whether it ends a word depends on the letters around it. All that
a part sees of the rest is whether a letter comes next on either side, when characters
that have no say are passed over. So a part whose sigmas see enough within the part has
one form wherever it stands, and every other part stands in some text whose form does
not hold the form of the part.
-/

variable {left right otherLeft otherRight near far part text rest : List Char}

/-- The capital letter with two lowercase forms. -/
def capitalSigma : Char :=
  Char.ofNat 0x3A3

/-- The lowercase form of a capital sigma within a word. -/
def innerSigma : Char :=
  Char.ofNat 0x3C3

/-- The lowercase form of a capital sigma at the end of a word. -/
def finalSigma : Char :=
  Char.ofNat 0x3C2

/-- The lowercase form of a part between the reversed text before it and the text after. -/
def lowercasePart (left : List Char) : List Char → List Char → List Char
  | [], _ => []
  | c :: rest, right =>
      lowerBetween left c (rest ++ right) ++
        lowercasePart (c :: left) rest right

/-- A text holds a character that has a say about the case around a letter. -/
def Decides (text : List Char) : Prop :=
  ∃ c ∈ text, isCaseIgnorable c = false

theorem decides_iff :
    Decides text ↔ text.any (!isCaseIgnorable ·) = true := by
  simp only [Decides, List.any_eq_true, Bool.not_eq_true']

instance : Decidable (Decides text) :=
  decidable_of_iff _ decides_iff.symm

/--
The two sides of a capital sigma settle whether the sigma ends a word.

They do if a letter follows, so that it ends none. Otherwise something before it has to
have a say, and be no letter, unless something behind it has a say as well.
-/
def SettlesSigma
    (near far : List Char) :
    Prop :=
  startsCased far = true ∨
    Decides near ∧ (startsCased near.reverse = false ∨ Decides far)

/-- Every capital sigma of a text is settled by the text, whatever stands around it. -/
def SettlesSigmas (text : List Char) : Prop :=
  ∀ near far,
    text = near ++ capitalSigma :: far → SettlesSigma near far

instance : Decidable (SettlesSigma near far) := by
  unfold SettlesSigma
  infer_instance

theorem settlesSigmas_iff_forall_lt :
    SettlesSigmas text ↔
      ∀ index < text.length,
        text[index]? = some capitalSigma →
        SettlesSigma (text.take index) (text.drop (index + 1)) := by
  constructor
  · intro settles index inside isSigma
    apply settles
    rw [List.getElem?_eq_getElem inside, Option.some_inj] at isSigma
    rw [← isSigma, List.getElem_cons_drop, List.take_append_drop]
  · rintro settles near far rfl
    have atSigma := settles near.length (by simp) (by simp)
    simpa using atSigma

instance : Decidable (SettlesSigmas text) :=
  decidable_of_iff _ settlesSigmas_iff_forall_lt.symm

theorem startsCased_nil : startsCased [] = false :=
  rfl

theorem startsCased_cons
    (c : Char)
    (rest : List Char) :
    startsCased (c :: rest) =
      if isCaseIgnorable c then startsCased rest else isCased c := by
  by_cases passed : isCaseIgnorable c = true
  · rw [if_pos passed, startsCased, List.dropWhile_cons_of_pos passed]
    rfl
  · rw [if_neg passed, startsCased, List.dropWhile_cons_of_neg passed]

theorem startsCased_append_congr
    (alike : startsCased right = startsCased otherRight)
    (text : List Char) :
    startsCased (text ++ right) = startsCased (text ++ otherRight) := by
  induction text with
  | nil =>
      exact alike
  | cons c rest inductionHypothesis =>
      rw [List.cons_append, List.cons_append, startsCased_cons,
        startsCased_cons, inductionHypothesis]

theorem startsCased_append_of_decides
    (decides : Decides text)
    (rest : List Char) :
    startsCased (text ++ rest) = startsCased text := by
  induction text with
  | nil =>
      obtain ⟨c, member, -⟩ := decides
      cases member
  | cons c more inductionHypothesis =>
      rw [List.cons_append, startsCased_cons, startsCased_cons]
      by_cases passed : isCaseIgnorable c = true
      · rw [if_pos passed, if_pos passed]
        apply inductionHypothesis
        obtain ⟨decisive, member, counts⟩ := decides
        rcases List.mem_cons.mp member with rfl | inMore
        · rw [passed] at counts
          cases counts
        · exact ⟨decisive, inMore, counts⟩
      · rw [if_neg passed, if_neg passed]

theorem startsCased_append_of_not_decides
    (hidden : ¬Decides text)
    (rest : List Char) :
    startsCased (text ++ rest) = startsCased rest := by
  induction text with
  | nil =>
      rfl
  | cons c more inductionHypothesis =>
      have passed : isCaseIgnorable c = true := by
        by_cases counts : isCaseIgnorable c = true
        · exact counts
        · exact (hidden ⟨c, List.mem_cons_self, by simpa using counts⟩).elim
      rw [List.cons_append, startsCased_cons, if_pos passed]
      apply inductionHypothesis
      rintro ⟨decisive, member, counts⟩
      exact hidden ⟨decisive, List.mem_cons_of_mem c member, counts⟩

theorem decides_of_startsCased
    (cased : startsCased text = true) :
    Decides text := by
  by_cases decides : Decides text
  · exact decides
  · have empty := startsCased_append_of_not_decides decides []
    rw [List.append_nil, cased] at empty
    cases empty

theorem decides_reverse :
    Decides text.reverse ↔ Decides text := by
  simp only [Decides, List.mem_reverse]

theorem isCaseIgnorable_capitalSigma :
    isCaseIgnorable capitalSigma = false := by
  decide

theorem startsCased_capitalSigma
    (rest : List Char) :
    startsCased (capitalSigma :: rest) = true := by
  have cased : isCased capitalSigma = true := by
    decide
  rw [startsCased_cons, isCaseIgnorable_capitalSigma,
    if_neg Bool.false_ne_true, cased]

theorem lowerBetween_capitalSigma
    (left right : List Char) :
    lowerBetween left capitalSigma right =
      if startsCased left && !startsCased right then [finalSigma]
      else [innerSigma] :=
  rfl

theorem lowerBetween_of_ne
    {c : Char}
    (other : c ≠ capitalSigma)
    (left right : List Char) :
    lowerBetween left c right = lowerChar c := by
  apply if_neg
  intro isSigma
  apply other
  rw [← Char.ofNat_toNat c, isSigma]
  rfl

theorem lowerBetween_congr
    (leftAlike : startsCased left = startsCased otherLeft)
    (rightAlike : startsCased right = startsCased otherRight)
    (c : Char) :
    lowerBetween left c right = lowerBetween otherLeft c otherRight := by
  rw [lowerBetween, lowerBetween, leftAlike, rightAlike]

/-- The form of a part depends on the letters next to it alone. -/
theorem lowercasePart_congr
    (leftAlike : startsCased left = startsCased otherLeft)
    (rightAlike : startsCased right = startsCased otherRight)
    (part : List Char) :
    lowercasePart left part right =
      lowercasePart otherLeft part otherRight := by
  induction part generalizing left otherLeft with
  | nil =>
      rfl
  | cons c rest inductionHypothesis =>
      have nextAlike :
          startsCased (c :: left) = startsCased (c :: otherLeft) := by
        rw [startsCased_cons, startsCased_cons, leftAlike]
      rw [lowercasePart, lowercasePart, inductionHypothesis nextAlike,
        lowerBetween_congr leftAlike
          (startsCased_append_congr rightAlike rest)]

theorem lowercasePart_append
    (left first second right : List Char) :
    lowercasePart left (first ++ second) right =
      lowercasePart left first (second ++ right) ++
        lowercasePart (first.reverse ++ left) second right := by
  induction first generalizing left with
  | nil =>
      rfl
  | cons c rest inductionHypothesis =>
      rw [List.cons_append, lowercasePart, lowercasePart,
        inductionHypothesis, List.append_assoc, List.append_assoc,
        List.reverse_cons, List.append_assoc]
      rfl

theorem lowercaseAfter_eq
    (left text : List Char) :
    lowercaseAfter left text = lowercasePart left text [] := by
  induction text generalizing left with
  | nil =>
      rfl
  | cons c rest inductionHypothesis =>
      rw [lowercaseAfter, lowercasePart, inductionHypothesis,
        List.append_nil]

theorem lowercaseChars_eq
    (text : List Char) :
    lowercaseChars text = lowercasePart [] text [] :=
  lowercaseAfter_eq [] text

theorem lowercaseChars_append
    (before part after : List Char) :
    lowercaseChars (before ++ part ++ after) =
      lowercasePart [] before (part ++ after) ++
        lowercasePart before.reverse part after ++
        lowercasePart (part.reverse ++ before.reverse) after [] := by
  rw [lowercaseChars_eq, List.append_assoc, lowercasePart_append,
    lowercasePart_append]
  simp only [List.append_nil, List.append_assoc]

/-- A part without letters next to it has its own form within the form of the text. -/
theorem isInfix_of_uncased
    {before after : List Char}
    (leftUncased : startsCased before.reverse = false)
    (rightUncased : startsCased after = false)
    (part : List Char) :
    lowercaseChars part <:+: lowercaseChars (before ++ part ++ after) := by
  have leftAlike : startsCased [] = startsCased before.reverse :=
    leftUncased.symm
  have rightAlike : startsCased [] = startsCased after :=
    rightUncased.symm
  have sameForm :
      lowercaseChars part = lowercasePart before.reverse part after := by
    rw [lowercaseChars_eq]
    exact lowercasePart_congr leftAlike rightAlike part
  rw [lowercaseChars_append, ← sameForm]
  exact List.infix_append _ _ _

/-- A settled sigma has one form, whatever stands around the text. -/
theorem SettlesSigma.lowerBetween_eq
    (settles : SettlesSigma near far)
    (left right : List Char) :
    lowerBetween (near.reverse ++ left) capitalSigma (far ++ right) =
      lowerBetween near.reverse capitalSigma far := by
  rw [lowerBetween_capitalSigma, lowerBetween_capitalSigma]
  rcases settles with cased | ⟨nearDecides, uncased | farDecides⟩
  · have stillCased : startsCased (far ++ right) = true :=
      (startsCased_append_of_decides (decides_of_startsCased cased)
        right).trans cased
    rw [cased, stillCased, Bool.not_true, Bool.and_false, Bool.and_false]
  · rw [startsCased_append_of_decides (decides_reverse.mpr nearDecides),
      uncased, Bool.false_and, Bool.false_and]
  · rw [startsCased_append_of_decides (decides_reverse.mpr nearDecides),
      startsCased_append_of_decides farDecides]

/-- The form of the rest of a settled text depends on nothing around the text. -/
theorem SettlesSigmas.lowercasePart_rest
    (settles : SettlesSigmas text)
    (left right : List Char)
    (isText : text = near ++ rest) :
    lowercasePart (near.reverse ++ left) rest right =
      lowercasePart near.reverse rest [] := by
  induction rest generalizing near with
  | nil =>
      rfl
  | cons c more inductionHypothesis =>
      have sameRest :
          lowercasePart (c :: (near.reverse ++ left)) more right =
            lowercasePart (c :: near.reverse) more [] := by
        have isLonger : text = (near ++ [c]) ++ more := by
          rw [isText, List.append_assoc, List.singleton_append]
        simpa using inductionHypothesis isLonger
      have sameHead :
          lowerBetween (near.reverse ++ left) c (more ++ right) =
            lowerBetween near.reverse c more := by
        by_cases isSigma : c = capitalSigma
        · subst isSigma
          exact (settles near more isText).lowerBetween_eq left right
        · rw [lowerBetween_of_ne isSigma, lowerBetween_of_ne isSigma]
      rw [lowercasePart, lowercasePart, sameRest, sameHead, List.append_nil]

theorem SettlesSigmas.isInfix
    (settles : SettlesSigmas part)
    (before after : List Char) :
    lowercaseChars part <:+: lowercaseChars (before ++ part ++ after) := by
  have sameForm :
      lowercasePart before.reverse part after = lowercaseChars part :=
    (settles.lowercasePart_rest before.reverse after
      (List.nil_append part).symm).trans (lowercaseChars_eq part).symm
  rw [lowercaseChars_append, sameForm]
  exact List.infix_append _ _ _

theorem lowercasePart_of_notMem
    (free : capitalSigma ∉ part)
    (left right : List Char) :
    lowercasePart left part right = part.flatMap lowerChar := by
  induction part generalizing left with
  | nil =>
      rfl
  | cons c rest inductionHypothesis =>
      rw [List.mem_cons, not_or] at free
      rw [lowercasePart, lowerBetween_of_ne (Ne.symm free.1),
        inductionHypothesis free.2, List.flatMap_cons]

theorem notMem_of_not_decides
    (hidden : ¬Decides text) :
    capitalSigma ∉ text :=
  fun member => hidden ⟨capitalSigma, member, isCaseIgnorable_capitalSigma⟩

/-- A sigma is a letter, so that the parts on its two sides do not see past it. -/
theorem lowercasePart_around_sigma
    (left near far right : List Char) :
    lowercasePart left (near ++ capitalSigma :: far) right =
      lowercasePart left near [capitalSigma] ++
        lowerBetween (near.reverse ++ left) capitalSigma (far ++ right) ++
        lowercasePart [capitalSigma] far right := by
  have nearSees :
      startsCased (capitalSigma :: far ++ right) =
        startsCased [capitalSigma] :=
    (startsCased_capitalSigma _).trans (startsCased_capitalSigma []).symm
  have farSees :
      startsCased (capitalSigma :: (near.reverse ++ left)) =
        startsCased [capitalSigma] :=
    (startsCased_capitalSigma _).trans (startsCased_capitalSigma []).symm
  rw [lowercasePart_append, lowercasePart, lowercasePart_congr rfl nearSees,
    lowercasePart_congr farSees rfl, List.append_assoc]

/-- A text does not occur in another one that has fewer of its characters. -/
theorem not_isInfix_of_replaced
    {before start finish after : List Char}
    {own other : Char}
    (differ : other ≠ own)
    (notBefore : own ∉ before)
    (notAfter : own ∉ after) :
    ¬start ++ [own] ++ finish <:+:
      before ++ (start ++ [other] ++ finish) ++ after := by
  intro occurs
  have counts := occurs.sublist.count_le own
  simp only [List.count_append, List.count_singleton_self,
    List.count_singleton, List.count_eq_zero_of_not_mem notBefore,
    List.count_eq_zero_of_not_mem notAfter, beq_iff_eq, differ,
    if_false] at counts
  omega

/-- A sigma that sees past the beginning of a part ends a word behind a letter only. -/
theorem not_isInfix_behind_letter
    (hidden : ¬Decides near)
    (uncased : startsCased far = false) :
    ¬lowercaseChars (near ++ capitalSigma :: far) <:+:
      lowercaseChars (['a'] ++ (near ++ capitalSigma :: far) ++ []) := by
  have nearHidden : ¬Decides near.reverse :=
    fun decides => hidden (decides_reverse.mp decides)
  have nearUncased : startsCased near.reverse = false := by
    rw [← List.append_nil near.reverse,
      startsCased_append_of_not_decides nearHidden, startsCased_nil]
  have letterSeen : startsCased (near.reverse ++ ['a']) = true := by
    rw [startsCased_append_of_not_decides nearHidden]
    decide
  have nearForm := lowercasePart_of_notMem (notMem_of_not_decides hidden)
  have alone :
      lowercaseChars (near ++ capitalSigma :: far) =
        near.flatMap lowerChar ++ [innerSigma] ++
          lowercasePart [capitalSigma] far [] := by
    rw [lowercaseChars_eq, lowercasePart_around_sigma, nearForm,
      lowerBetween_capitalSigma, List.append_nil, nearUncased]
    rfl
  have within :
      lowercasePart ['a'] (near ++ capitalSigma :: far) [] =
        near.flatMap lowerChar ++ [finalSigma] ++
          lowercasePart [capitalSigma] far [] := by
    rw [lowercasePart_around_sigma, nearForm, lowerBetween_capitalSigma,
      letterSeen, List.append_nil, uncased]
    rfl
  have letterForm (right : List Char) : lowercasePart [] ['a'] right = ['a'] := by
    rfl
  rw [lowercaseChars_append, letterForm, List.reverse_singleton, within, alone]
  apply not_isInfix_of_replaced
  · decide
  · decide
  · exact List.not_mem_nil

/-- A sigma that sees past the end of a part ends a word before no letter only. -/
theorem not_isInfix_before_letter
    (cased : startsCased near.reverse = true)
    (hidden : ¬Decides far) :
    ¬lowercaseChars (near ++ capitalSigma :: far) <:+:
      lowercaseChars ([] ++ (near ++ capitalSigma :: far) ++ ['a']) := by
  have farUncased : startsCased far = false := by
    rw [← List.append_nil far, startsCased_append_of_not_decides hidden,
      startsCased_nil]
  have letterSeen : startsCased (far ++ ['a']) = true := by
    rw [startsCased_append_of_not_decides hidden]
    decide
  have farForm := lowercasePart_of_notMem (notMem_of_not_decides hidden)
  have alone :
      lowercaseChars (near ++ capitalSigma :: far) =
        lowercasePart [] near [capitalSigma] ++ [finalSigma] ++
          far.flatMap lowerChar := by
    rw [lowercaseChars_eq, lowercasePart_around_sigma, farForm,
      lowerBetween_capitalSigma, List.append_nil, List.append_nil, cased,
      farUncased]
    rfl
  have within :
      lowercasePart [] (near ++ capitalSigma :: far) ['a'] =
        lowercasePart [] near [capitalSigma] ++ [innerSigma] ++
          far.flatMap lowerChar := by
    rw [lowercasePart_around_sigma, farForm, lowerBetween_capitalSigma,
      letterSeen, List.append_nil, cased]
    rfl
  have letterForm (left : List Char) : lowercasePart left ['a'] [] = ['a'] := by
    rfl
  rw [lowercaseChars_append, letterForm, List.reverse_nil, within, alone]
  apply not_isInfix_of_replaced
  · decide
  · exact List.not_mem_nil
  · decide

/-- A text that leaves a sigma open does not keep its form in every text. -/
theorem exists_not_isInfix
    (unsettled : ¬SettlesSigmas part) :
    ∃ before after,
      ¬lowercaseChars part <:+:
        lowercaseChars (before ++ part ++ after) := by
  simp only [SettlesSigmas, Classical.not_forall] at unsettled
  obtain ⟨near, far, rfl, opens⟩ := unsettled
  rw [SettlesSigma, not_or, Bool.not_eq_true] at opens
  obtain ⟨farUncased, opens⟩ := opens
  by_cases nearDecides : Decides near
  · have sees :
        startsCased near.reverse = true ∧ ¬Decides far := by
      simpa [nearDecides] using opens
    exact ⟨[], ['a'], not_isInfix_before_letter sees.1 sees.2⟩
  · exact ⟨['a'], [], not_isInfix_behind_letter nearDecides farUncased⟩

/-- The texts that keep their form wherever they stand settle all of their sigmas. -/
theorem settlesSigmas_iff :
    SettlesSigmas part ↔
      ∀ before after,
        lowercaseChars part <:+:
          lowercaseChars (before ++ part ++ after) := by
  constructor
  · exact SettlesSigmas.isInfix
  · intro keeps
    by_cases settles : SettlesSigmas part
    · exact settles
    · obtain ⟨before, after, lost⟩ := exists_not_isInfix settles
      exact (lost (keeps before after)).elim

/-- A blank behind the sigma settles it, and the end of the text leaves it open. -/
example :
    SettlesSigmas "ΟΔΟΣ Α".toList ∧ ¬SettlesSigmas "ΟΔΟΣ".toList := by
  decide

/-- A text without a capital sigma has nothing to settle. -/
theorem settlesSigmas_of_notMem
    (free : capitalSigma ∉ text) :
    SettlesSigmas text := by
  rintro near far rfl
  exact (free (List.mem_append_right near List.mem_cons_self)).elim

end CatalogSite.Text
