import CatalogSite.Text.Utf8

namespace CatalogSite.Text

/-!
# Reading the bytes of a text

The bytes of a text are well-formed, and reading them gives the text back. A character is
written with one to four bytes; the first of them tells how many there are, and each of
the others lies within the bounds that its place has.
-/

variable {first second third fourth : UInt8}

theorem takeChar_of_one
    (single : sequenceLength first = 1)
    (rest : List UInt8) :
    takeChar first rest = (some (Char.ofNat first.toNat), 0) := by
  simp [takeChar, single]

theorem takeChar_of_two
    (double : sequenceLength first = 2)
    (fits : continues 0x80 0xBF second = true)
    (rest : List UInt8) :
    takeChar first (second :: rest) =
      (some (Char.ofNat (first.toNat % 32 * 64 + lowSix second)), 1) := by
  simp [takeChar, double, fits]

theorem takeChar_of_three
    (triple : sequenceLength first = 3)
    (fits :
      continues (secondOfThree first.toNat).1 (secondOfThree first.toNat).2
        second = true)
    (fitsThird : continues 0x80 0xBF third = true)
    (rest : List UInt8) :
    takeChar first (second :: third :: rest) =
      (some (Char.ofNat
        ((first.toNat % 16 * 64 + lowSix second) * 64 + lowSix third)),
        2) := by
  simp [takeChar, triple, fits, fitsThird]

theorem takeChar_of_four
    (quadruple : sequenceLength first = 4)
    (fits :
      continues (secondOfFour first.toNat).1 (secondOfFour first.toNat).2
        second = true)
    (fitsThird : continues 0x80 0xBF third = true)
    (fitsFourth : continues 0x80 0xBF fourth = true)
    (rest : List UInt8) :
    takeChar first (second :: third :: fourth :: rest) =
      (some (Char.ofNat
        (((first.toNat % 8 * 64 + lowSix second) * 64 + lowSix third) * 64 +
          lowSix fourth)), 3) := by
  simp [takeChar, quadruple, fits, fitsThird, fitsFourth]

/-- A number below 256 is the number of a byte. -/
theorem exists_byte
    {n : Nat}
    (small : n < 256) :
    ∃ byte, UInt8.ofNat n = byte ∧ byte.toNat = n :=
  ⟨UInt8.ofNat n, rfl, UInt8.toNat_ofNat_of_lt' small⟩

/-- The bytes of a character are read as the character, whatever follows them. -/
theorem exists_takeChar_utf8EncodeChar
    (c : Char)
    (rest : List UInt8) :
    ∃ first more,
      String.utf8EncodeChar c = first :: more ∧
        takeChar first (more ++ rest) = (some c, more.length) := by
  have isChar : Char.ofNat c.val.toNat = c :=
    Char.ofNat_toNat c
  have valid : c.val.toNat.isValidChar :=
    c.valid
  simp only [Nat.isValidChar] at valid
  fun_cases String.utf8EncodeChar c with
  | case1 v one =>
      obtain ⟨first, isFirst, firstValue⟩ :=
        exists_byte (show v < 256 by omega)
      have single : sequenceLength first = 1 := by
        grind [sequenceLength]
      refine ⟨first, [], by rw [isFirst], ?_⟩
      rw [takeChar_of_one single, firstValue, isChar]
      rfl
  | case2 v notOne two =>
      obtain ⟨first, isFirst, firstValue⟩ :=
        exists_byte (show v / 64 % 32 + 192 < 256 by omega)
      obtain ⟨second, isSecond, secondValue⟩ :=
        exists_byte (show v % 64 + 128 < 256 by omega)
      have double : sequenceLength first = 2 := by
        grind [sequenceLength]
      have fits : continues 0x80 0xBF second = true := by
        grind [continues]
      have value : first.toNat % 32 * 64 + lowSix second = v := by
        rw [lowSix]
        omega
      refine ⟨first, [second], by rw [isFirst, isSecond], ?_⟩
      rw [List.singleton_append, takeChar_of_two double fits, value,
        isChar]
      rfl
  | case3 v notOne notTwo three =>
      obtain ⟨first, isFirst, firstValue⟩ :=
        exists_byte (show v / 4096 % 16 + 224 < 256 by omega)
      obtain ⟨second, isSecond, secondValue⟩ :=
        exists_byte (show v / 64 % 64 + 128 < 256 by omega)
      obtain ⟨third, isThird, thirdValue⟩ :=
        exists_byte (show v % 64 + 128 < 256 by omega)
      have triple : sequenceLength first = 3 := by
        grind [sequenceLength]
      have fits :
          continues (secondOfThree first.toNat).1
            (secondOfThree first.toNat).2 second = true := by
        grind [continues, secondOfThree]
      have fitsThird : continues 0x80 0xBF third = true := by
        grind [continues]
      have value :
          (first.toNat % 16 * 64 + lowSix second) * 64 + lowSix third =
            v := by
        rw [lowSix, lowSix]
        omega
      refine
        ⟨first, [second, third], by rw [isFirst, isSecond, isThird], ?_⟩
      rw [List.cons_append, List.singleton_append,
        takeChar_of_three triple fits fitsThird, value, isChar]
      rfl
  | case4 v notOne notTwo notThree =>
      obtain ⟨first, isFirst, firstValue⟩ :=
        exists_byte (show v / 262144 % 8 + 240 < 256 by omega)
      obtain ⟨second, isSecond, secondValue⟩ :=
        exists_byte (show v / 4096 % 64 + 128 < 256 by omega)
      obtain ⟨third, isThird, thirdValue⟩ :=
        exists_byte (show v / 64 % 64 + 128 < 256 by omega)
      obtain ⟨fourth, isFourth, fourthValue⟩ :=
        exists_byte (show v % 64 + 128 < 256 by omega)
      have quadruple : sequenceLength first = 4 := by
        grind [sequenceLength]
      have fits :
          continues (secondOfFour first.toNat).1
            (secondOfFour first.toNat).2 second = true := by
        grind [continues, secondOfFour]
      have fitsThird : continues 0x80 0xBF third = true := by
        grind [continues]
      have fitsFourth : continues 0x80 0xBF fourth = true := by
        grind [continues]
      have value :
          ((first.toNat % 8 * 64 + lowSix second) * 64 + lowSix third) *
              64 + lowSix fourth =
            v := by
        rw [lowSix, lowSix, lowSix]
        omega
      refine
        ⟨first, [second, third, fourth],
          by rw [isFirst, isSecond, isThird, isFourth], ?_⟩
      rw [List.cons_append, List.cons_append, List.singleton_append,
        takeChar_of_four quadruple fits fitsThird fitsFourth, value,
        isChar]
      rfl

theorem decodeFrom_length_append
    (front rest : List UInt8) :
    decodeFrom front.length (front ++ rest) = decodeFrom 0 rest := by
  induction front with
  | nil =>
      rfl
  | cons byte others inductionHypothesis =>
      exact inductionHypothesis

theorem decodeFrom_utf8
    (text : List Char) :
    decodeFrom 0 (utf8 text) = text.map some := by
  induction text with
  | nil =>
      rfl
  | cons c rest inductionHypothesis =>
      obtain ⟨first, more, isWritten, isRead⟩ :=
        exists_takeChar_utf8EncodeChar c (utf8 rest)
      have together :
          utf8 (c :: rest) = first :: (more ++ utf8 rest) := by
        rw [utf8, List.flatMap_cons, isWritten]
        rfl
      rw [together, decodeFrom, isRead]
      dsimp only
      rw [decodeFrom_length_append, inductionHypothesis, List.map_cons]

/-- The bytes of a text are read as the text. -/
theorem decodeLossy_utf8
    (text : List Char) :
    decodeLossy (utf8 text) = text := by
  rw [decodeLossy, decodeFrom_utf8, List.map_map]
  exact List.map_id text

end CatalogSite.Text
