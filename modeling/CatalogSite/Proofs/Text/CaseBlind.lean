import CatalogSite.Proofs.Text.AsciiCase
import CatalogSite.Text.Blank
import CatalogSite.Text.Utf8

namespace CatalogSite.Text

/-!
# Readings that do not see the case of ASCII letters

A test that never tells a capital of ASCII from its small letter cuts a text at the same
places when its capitals are made small. The same is true one layer down: the capitals of
ASCII are bytes of their own, so that making them small among the bytes of a text is
making them small in the text.
-/

/-- A function of characters takes a capital of ASCII for its small letter. -/
def CaseBlind
    {α : Type}
    (reads : Char → α) : Prop :=
  ∀ c, reads c.toLower = reads c

/-- Only the capitals have to be tried. -/
theorem caseBlind_of_capitals
    {α : Type}
    [DecidableEq α]
    {reads : Char → α}
    (onCapitals :
      (asciiCapitals.all fun c => reads c.toLower = reads c) = true) :
    CaseBlind reads := by
  intro c
  rcases mem_asciiCapitals_or_toLower_eq c with isCapital | same
  · exact of_decide_eq_true (List.all_eq_true.mp onCapitals c isCapital)
  · rw [same]

/-- What is no letter comes from itself alone when capitals are made small. -/
theorem toLower_eq_iff
    {mark : Char}
    (noLetter :
      (asciiCapitals.all fun c => c ≠ mark ∧ c.toLower ≠ mark) = true)
    {c : Char} :
    c.toLower = mark ↔ c = mark := by
  rcases mem_asciiCapitals_or_toLower_eq c with isCapital | same
  · obtain ⟨notMark, lowerNotMark⟩ :=
      of_decide_eq_true (List.all_eq_true.mp noLetter c isCapital)
    exact iff_of_false lowerNotMark notMark
  · rw [same]

theorem CaseBlind.comp_toLower
    {α : Type}
    {reads : Char → α}
    (blind : CaseBlind reads) :
    reads ∘ Char.toLower = reads :=
  funext blind

namespace CaseBlind

variable {test : Char → Bool} (blind : CaseBlind test)

include blind

theorem takeWhile_map
    (text : List Char) :
    (text.map Char.toLower).takeWhile test =
      (text.takeWhile test).map Char.toLower := by
  rw [List.takeWhile_map, blind.comp_toLower]

theorem dropWhile_map
    (text : List Char) :
    (text.map Char.toLower).dropWhile test =
      (text.dropWhile test).map Char.toLower := by
  rw [List.dropWhile_map, blind.comp_toLower]

theorem dropEndWhile_map
    (text : List Char) :
    dropEndWhile test (text.map Char.toLower) =
      (dropEndWhile test text).map Char.toLower := by
  rw [dropEndWhile, dropEndWhile, ← List.map_reverse,
    blind.dropWhile_map, List.map_reverse]

theorem all_map
    (text : List Char) :
    (text.map Char.toLower).all test = text.all test := by
  rw [List.all_map, blind.comp_toLower]

theorem filter_map
    (text : List Char) :
    (text.map Char.toLower).filter test =
      (text.filter test).map Char.toLower := by
  rw [List.filter_map, blind.comp_toLower]

theorem splitOnP_map
    (text : List Char) :
    (text.map Char.toLower).splitOnP test =
      (text.splitOnP test).map (List.map Char.toLower) := by
  induction text with
  | nil =>
      rfl
  | cons c rest inductionHypothesis =>
      rw [List.map_cons, List.splitOnP_cons_eq_if_modifyHead,
        List.splitOnP_cons_eq_if_modifyHead, inductionHypothesis, blind c]
      split
      · rfl
      · cases rest.splitOnP test <;> rfl

end CaseBlind

/-! ## Bytes -/

/-- A byte with the capitals of ASCII made small. -/
def lowerByte
    (byte : UInt8) :
    UInt8 :=
  if 65 ≤ byte.toNat ∧ byte.toNat ≤ 90 then byte + 32 else byte

theorem lowerByte_of_large
    {byte : UInt8}
    (large : 0x80 ≤ byte.toNat) :
    lowerByte byte = byte := by
  rw [lowerByte, if_neg (by omega)]

/-- A character outside ASCII is no capital of ASCII. -/
theorem toLower_of_large
    {c : Char}
    (large : 0x80 ≤ c.toNat) :
    c.toLower = c := by
  rcases mem_asciiCapitals_or_toLower_eq c with isCapital | same
  · have onCapitals : asciiCapitals.all (·.toNat < 0x80) = true := by
      decide
    have small :=
      of_decide_eq_true (List.all_eq_true.mp onCapitals c isCapital)
    omega
  · exact same

/-- A character of ASCII is a byte of its own, and all other bytes are large. -/
theorem utf8EncodeChar_toLower
    (c : Char) :
    String.utf8EncodeChar c.toLower =
      (String.utf8EncodeChar c).map lowerByte := by
  by_cases large : 0x80 ≤ c.toNat
  · have largeByte
        {n : Nat}
        (isLarge : 0x80 ≤ n)
        (isByte : n < 256) :
        lowerByte (UInt8.ofNat n) = UInt8.ofNat n := by
      apply lowerByte_of_large
      rw [UInt8.toNat_ofNat_of_lt' isByte]
      exact isLarge
    have unchanged :
        (String.utf8EncodeChar c).map lowerByte =
          String.utf8EncodeChar c := by
      have isLarge : 0x80 ≤ c.val.toNat := large
      fun_cases String.utf8EncodeChar c
      · omega
      all_goals
        simp only [List.map_cons, List.map_nil]
        repeat rw [largeByte (by omega) (by omega)]
    rw [toLower_of_large large, unchanged]
  · have inAscii :
        ∀ n < 0x80,
          String.utf8EncodeChar (Char.ofNat n).toLower =
            (String.utf8EncodeChar (Char.ofNat n)).map lowerByte := by
      decide
    have isChar := inAscii c.toNat (by omega)
    rw [Char.ofNat_toNat] at isChar
    exact isChar

theorem utf8_map_toLower
    (text : List Char) :
    utf8 (text.map Char.toLower) = (utf8 text).map lowerByte := by
  induction text with
  | nil =>
      rfl
  | cons c rest inductionHypothesis =>
      have together
          (first : Char)
          (others : List Char) :
          utf8 (first :: others) =
            String.utf8EncodeChar first ++ utf8 others :=
        List.flatMap_cons
      rw [List.map_cons, together, together, List.map_append,
        utf8EncodeChar_toLower, inductionHypothesis]

/-! ## Reading bytes -/

theorem toLower_ofNat_of_large
    {n : Nat}
    (large : 0x80 ≤ n) :
    (Char.ofNat n).toLower = Char.ofNat n := by
  by_cases valid : n.isValidChar
  · apply toLower_of_large
    have isChar : (Char.ofNat n).toNat = n := by
      rw [Char.ofNat, dif_pos valid]
      rfl
    rw [isChar]
    exact large
  · have isDefault : Char.ofNat n = Char.ofNat 0 := by
      rw [Char.ofNat, dif_neg valid]
      rfl
    rw [isDefault]
    rfl

/-- A byte that is made small continues no character, neither before nor afterwards. -/
theorem lowerByte_cases
    (byte : UInt8) :
    lowerByte byte = byte ∨
      ∀ low high,
        0x80 ≤ low →
          continues low high byte = false ∧
            continues low high (lowerByte byte) = false := by
  by_cases isCapital : 65 ≤ byte.toNat ∧ byte.toNat ≤ 90
  · right
    intro low high largeLow
    have lowered : (lowerByte byte).toNat = byte.toNat + 32 := by
      have isByte : byte.toNat + 32 < 256 := by omega
      rw [lowerByte, if_pos isCapital, UInt8.toNat_add]
      exact Nat.mod_eq_of_lt isByte
    have notLow : ¬ low ≤ byte.toNat := by omega
    have notLowered : ¬ low ≤ (lowerByte byte).toNat := by omega
    simp [continues, notLow, notLowered]
  · left
    exact if_neg isCapital

/-- The first byte of a character, by the number of its bytes. -/
theorem sequenceLength_cases
    (first : UInt8) :
    sequenceLength first = 0 ∨
      (sequenceLength first = 1 ∧ first.toNat < 0x80) ∨
      (sequenceLength first = 2 ∧ 0xC2 ≤ first.toNat ∧
        first.toNat ≤ 0xDF) ∨
      (sequenceLength first = 3 ∧ 0xE0 ≤ first.toNat ∧
        first.toNat ≤ 0xEF) ∨
      (sequenceLength first = 4 ∧ 0xF0 ≤ first.toNat ∧
        first.toNat ≤ 0xF4) := by
  fun_cases sequenceLength first <;> simp [*] <;> omega

theorem large_secondOfThree
    (first : Nat) :
    0x80 ≤ (secondOfThree first).1 := by
  fun_cases secondOfThree first <;> decide

theorem large_secondOfFour
    (first : Nat) :
    0x80 ≤ (secondOfFour first).1 := by
  fun_cases secondOfFour first <;> decide

/-- Bytes that are made small behind a first one do not belong to its character. -/
theorem takeChar_map_lowerByte
    (first : UInt8)
    (rest : List UInt8) :
    takeChar first (rest.map lowerByte) = takeChar first rest := by
  have largeThree := large_secondOfThree first.toNat
  have largeFour := large_secondOfFour first.toNat
  rcases rest with _ | ⟨second, more⟩
  · rfl
  rw [List.map_cons]
  rcases sequenceLength_cases first with
    zero | ⟨one, -⟩ | ⟨two, -⟩ | ⟨three, -⟩ | ⟨four, -⟩
  · simp [takeChar, zero]
  · simp [takeChar, one]
  · rcases lowerByte_cases second with same | fails
    · simp [takeChar, two, same]
    · simp [takeChar, two, fails]
  · rcases lowerByte_cases second with same | fails
    · rcases more with _ | ⟨third, last⟩
      · simp [same]
      rw [List.map_cons]
      rcases lowerByte_cases third with sameThird | failsThird
      · simp [takeChar, three, same, sameThird]
      · simp [takeChar, three, same, failsThird]
    · simp [takeChar, three, fails, largeThree]
  · rcases lowerByte_cases second with same | fails
    · rcases more with _ | ⟨third, last⟩
      · simp [same]
      rw [List.map_cons]
      rcases lowerByte_cases third with sameThird | failsThird
      · rcases last with _ | ⟨fourth, others⟩
        · simp [same, sameThird]
        rw [List.map_cons]
        rcases lowerByte_cases fourth with sameFourth | failsFourth
        · simp [takeChar, four, same, sameThird, sameFourth]
        · simp [takeChar, four, same, sameThird, failsFourth]
      · simp [takeChar, four, same, failsThird]
    · simp [takeChar, four, fails, largeFour]

/-- A character of several bytes is no letter of ASCII. -/
theorem toLower_takeChar_of_large
    {first : UInt8}
    (large : 0x80 ≤ first.toNat)
    (rest : List UInt8) :
    (takeChar first rest).1.map Char.toLower = (takeChar first rest).1 := by
  have lengths := sequenceLength_cases first
  fun_cases takeChar first rest
  case case1 one =>
    rw [one] at lengths
    omega
  case case2 second _ two isSecond =>
    rw [two] at lengths
    refine congrArg some (toLower_ofNat_of_large ?_)
    simp only [lowSix]
    omega
  case case4 second three low high bounds isSecond third _ isThird =>
    rw [three] at lengths
    refine congrArg some (toLower_ofNat_of_large ?_)
    simp only [continues, Bool.and_eq_true, decide_eq_true_eq] at isSecond
    simp only [secondOfThree] at bounds
    simp only [lowSix]
    split at bounds
    · cases bounds
      omega
    · omega
  case case8 second four low high bounds isSecond third isThird fourth _ isFourth =>
    rw [four] at lengths
    refine congrArg some (toLower_ofNat_of_large ?_)
    simp only [continues, Bool.and_eq_true, decide_eq_true_eq] at isSecond
    simp only [secondOfFour] at bounds
    simp only [lowSix]
    split at bounds
    · cases bounds
      omega
    · omega
  all_goals rfl

theorem takeChar_of_small
    {first : UInt8}
    (small : first.toNat < 0x80)
    (rest : List UInt8) :
    takeChar first rest = (some (Char.ofNat first.toNat), 0) := by
  have one : sequenceLength first = 1 := by
    rw [sequenceLength, if_pos small]
  simp [takeChar, one]

theorem takeChar_lowerByte
    (first : UInt8)
    (rest : List UInt8) :
    takeChar (lowerByte first) (rest.map lowerByte) =
      ((takeChar first rest).1.map Char.toLower,
        (takeChar first rest).2) := by
  by_cases large : 0x80 ≤ first.toNat
  · rw [lowerByte_of_large large, takeChar_map_lowerByte,
      toLower_takeChar_of_large large]
  · have inAscii :
        ∀ n < 0x80,
          (lowerByte (UInt8.ofNat n)).toNat < 0x80 ∧
            Char.ofNat (lowerByte (UInt8.ofNat n)).toNat =
              (Char.ofNat n).toLower := by
      decide
    have small : first.toNat < 0x80 := by omega
    obtain ⟨smallLower, isChar⟩ := inAscii first.toNat small
    rw [UInt8.ofNat_toNat] at smallLower isChar
    rw [takeChar_of_small smallLower, takeChar_of_small small, isChar]
    rfl

theorem decodeFrom_map_lowerByte
    (skipped : Nat)
    (bytes : List UInt8) :
    decodeFrom skipped (bytes.map lowerByte) =
      (decodeFrom skipped bytes).map (Option.map Char.toLower) := by
  induction bytes generalizing skipped with
  | nil =>
      cases skipped <;> rfl
  | cons first rest inductionHypothesis =>
      cases skipped with
      | succ count =>
          exact inductionHypothesis count
      | zero =>
          rw [List.map_cons, decodeFrom, takeChar_lowerByte, decodeFrom]
          dsimp only
          rw [inductionHypothesis]
          rfl

/-- The capitals of ASCII are made small in a text by making them small in its bytes. -/
theorem decode?_map_lowerByte
    (bytes : List UInt8) :
    decode? (bytes.map lowerByte) =
      (decode? bytes).map (List.map Char.toLower) := by
  have inOptions
      (read : List (Option Char)) :
      (read.map (Option.map Char.toLower)).mapM id =
        (read.mapM id).map (List.map Char.toLower) := by
    induction read with
    | nil =>
        rfl
    | cons first rest inductionHypothesis =>
        rw [List.map_cons, List.mapM_cons, inductionHypothesis,
          List.mapM_cons]
        cases first with
        | none =>
            rfl
        | some c =>
            cases rest.mapM id <;> rfl
  rw [decode?, decode?, decodeFrom_map_lowerByte, inOptions]

end CatalogSite.Text
