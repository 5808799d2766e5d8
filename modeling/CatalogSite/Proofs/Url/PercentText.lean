import CatalogSite.Text.Utf8
import CatalogSite.Url.Percent

namespace CatalogSite

/-!
# Percent-encoded texts

A percent-encoded text consists of the characters that were left as they are, of percent
signs and of hexadecimal digits. A separator that is none of these and that is left as
it is separates the encoded text exactly where it separates the text itself. Decoding
gives the bytes of the text back as soon as percent signs are encoded too.
-/

namespace Text

theorem utf8_append
    (first second : List Char) :
    utf8 (first ++ second) = utf8 first ++ utf8 second :=
  List.flatMap_append

/-- The bytes of a text determine it. -/
theorem utf8_injective :
    Function.Injective utf8 := by
  intro first second sameBytes
  have same : String.ofList first = String.ofList second := by
    rw [← String.toByteArray_inj, String.toByteArray_ofList,
      String.toByteArray_ofList]
    exact congrArg List.toByteArray sameBytes
  simpa using congrArg String.toList same

end Text

namespace Url

variable {encoded : Char → Bool} {text : List Char}

/-- The characters that bytes are written with. -/
def percentMarks : List Char :=
  "%0123456789ABCDEF".toList

theorem percentEncode_cons
    (encoded : Char → Bool)
    (c : Char)
    (rest : List Char) :
    percentEncode encoded (c :: rest) =
      (if encoded c then (String.utf8EncodeChar c).flatMap percentByte
        else [c]) ++
        percentEncode encoded rest :=
  List.flatMap_cons

/-- A text of which nothing is encoded is left as it is. -/
theorem percentEncode_eq_self
    (plain : ∀ c ∈ text, encoded c = false) :
    percentEncode encoded text = text := by
  induction text with
  | nil =>
      rfl
  | cons c rest inductionHypothesis =>
      rw [percentEncode_cons, plain c List.mem_cons_self,
        inductionHypothesis
          (fun other member => plain other (.tail c member))]
      rfl

/-! ## The characters of an encoded text -/

/-- A test that no mark passes fails for each of them. -/
theorem eq_false_of_mem_percentMarks
    {test : Char → Bool}
    {c : Char}
    (none : percentMarks.any test = false)
    (mark : c ∈ percentMarks) :
    test c = false :=
  Bool.eq_false_iff.mpr (List.any_eq_false.mp none c mark)

theorem mem_percentMarks_of_mem_percentByte
    {byte : UInt8}
    {c : Char}
    (member : c ∈ percentByte byte) :
    c ∈ percentMarks := by
  have digits : ∀ n < 16, hexDigitUpper n ∈ percentMarks := by
    decide
  have small : byte.toNat < 256 :=
    byte.toNat_lt
  simp only [percentByte, List.mem_cons, List.not_mem_nil, or_false]
    at member
  rcases member with rfl | rfl | rfl
  · decide
  · exact digits _ (by omega)
  · exact digits _ (by omega)

/-- The written form of a character that is encoded consists of marks. -/
theorem mem_percentMarks_of_mem_flatMap
    {bytes : List UInt8}
    {c : Char}
    (member : c ∈ bytes.flatMap percentByte) :
    c ∈ percentMarks := by
  obtain ⟨byte, -, inByte⟩ := List.mem_flatMap.mp member
  exact mem_percentMarks_of_mem_percentByte inByte

/-- An encoded text consists of marks and of characters that are left as they are. -/
theorem mark_or_plain_of_mem_percentEncode
    {c : Char}
    (member : c ∈ percentEncode encoded text) :
    c ∈ percentMarks ∨ c ∈ text ∧ encoded c = false := by
  obtain ⟨source, isSource, inSource⟩ := List.mem_flatMap.mp member
  split at inSource
  · exact .inl (mem_percentMarks_of_mem_flatMap inSource)
  · rename_i plain
    obtain rfl := List.mem_singleton.mp inSource
    exact .inr ⟨isSource, Bool.eq_false_iff.mpr plain⟩

/-- Whatever is encoded leaves a percent sign. -/
theorem plain_of_percent_notMem
    (noPercent : '%' ∉ percentEncode encoded text) :
    ∀ c ∈ text, encoded c = false := by
  intro c member
  rw [Bool.eq_false_iff]
  intro isEncoded
  obtain ⟨byte, isByte⟩ :=
    List.exists_mem_of_ne_nil _ (String.utf8EncodeChar_ne_nil (c := c))
  apply noPercent
  refine List.mem_flatMap.mpr ⟨c, member, ?_⟩
  rw [if_pos isEncoded]
  exact List.mem_flatMap.mpr ⟨byte, isByte, List.mem_cons_self⟩

/-- A text without percent signs is encoded from no other text than itself. -/
theorem eq_of_percentEncode_eq
    {written : List Char}
    (writes : percentEncode encoded text = written)
    (noPercent : '%' ∉ written) :
    text = written := by
  rw [← writes] at noPercent ⊢
  exact (percentEncode_eq_self (plain_of_percent_notMem noPercent)).symm

/-! ## Pieces of an encoded text -/

/-- Characters that separate nothing are put in front of the first piece. -/
theorem splitOnP_append_of_none
    {separates : Char → Bool}
    {front : List Char}
    (none : ∀ c ∈ front, separates c = false)
    (rest : List Char) :
    (front ++ rest).splitOnP separates =
      (rest.splitOnP separates).modifyHead (front ++ ·) := by
  induction front with
  | nil =>
      cases shape : rest.splitOnP separates <;> simp [shape]
  | cons c others inductionHypothesis =>
      rw [List.cons_append, List.splitOnP_cons_eq_if_modifyHead,
        none c List.mem_cons_self,
        inductionHypothesis (fun other member => none other (.tail c member))]
      cases rest.splitOnP separates <;> rfl

/--
Encoding commutes with splitting.

A separator that is encoded does not separate the encoded text any more.
-/
theorem splitOnP_percentEncode
    {separates : Char → Bool}
    (noMark : percentMarks.any separates = false)
    (text : List Char) :
    (percentEncode encoded text).splitOnP separates =
      (text.splitOnP fun c => separates c && !encoded c).map
        (percentEncode encoded) := by
  induction text with
  | nil =>
      rfl
  | cons c rest inductionHypothesis =>
      obtain ⟨piece, pieces, shape⟩ :=
        List.exists_cons_of_ne_nil
          (List.splitOnP_ne_nil (fun c => separates c && !encoded c) rest)
      rw [percentEncode_cons, List.splitOnP_cons_eq_if_modifyHead]
      cases isEncoded : encoded c with
      | true =>
          rw [if_pos rfl,
            splitOnP_append_of_none
              (fun _ member =>
                eq_false_of_mem_percentMarks noMark
                  (mem_percentMarks_of_mem_flatMap member)),
            inductionHypothesis, shape]
          simp [percentEncode_cons, isEncoded]
      | false =>
          cases isSeparator : separates c with
          | true =>
              simp [List.splitOnP_cons_eq_if_modifyHead, isSeparator,
                inductionHypothesis]
              rfl
          | false =>
              simp [List.splitOnP_cons_eq_if_modifyHead, isSeparator,
                inductionHypothesis, shape, percentEncode_cons,
                isEncoded]

/-! ## Decoding -/

theorem percentDecode_cons_of_ne
    {byte : UInt8}
    (notPercent : byte ≠ 37)
    (rest : List UInt8) :
    percentDecode (byte :: rest) = byte :: percentDecode rest := by
  rw [percentDecode]
  intro high low others isPercent
  exact absurd isPercent notPercent

theorem percentDecode_append_of_notMem
    {bytes : List UInt8}
    (noPercent : 37 ∉ bytes)
    (rest : List UInt8) :
    percentDecode (bytes ++ rest) = bytes ++ percentDecode rest := by
  induction bytes with
  | nil =>
      rfl
  | cons byte others inductionHypothesis =>
      rw [List.mem_cons, not_or] at noPercent
      rw [List.cons_append,
        percentDecode_cons_of_ne (Ne.symm noPercent.1),
        inductionHypothesis noPercent.2, List.cons_append]

/-- A hexadecimal digit is written as one byte, which has its value. -/
theorem exists_utf8_hexDigitUpper
    {n : Nat}
    (small : n < 16) :
    ∃ digit,
      String.utf8EncodeChar (hexDigitUpper n) = [digit] ∧
        hexValue? digit = some n := by
  have values :
      ∀ n < 16,
        (String.utf8EncodeChar (hexDigitUpper n)).map hexValue? =
          [some n] := by
    decide
  obtain ⟨digit, isDigit, value⟩ :=
    List.map_eq_singleton_iff.mp (values n small)
  exact ⟨digit, isDigit, value⟩

/-- The written form of a byte is read as this byte. -/
theorem percentDecode_percentByte
    (byte : UInt8)
    (rest : List UInt8) :
    percentDecode (Text.utf8 (percentByte byte) ++ rest) =
      byte :: percentDecode rest := by
  have small : byte.toNat < 256 :=
    byte.toNat_lt
  obtain ⟨high, isHigh, highValue⟩ :=
    exists_utf8_hexDigitUpper (show byte.toNat / 16 < 16 by omega)
  obtain ⟨low, isLow, lowValue⟩ :=
    exists_utf8_hexDigitUpper (show byte.toNat % 16 < 16 by omega)
  have written : Text.utf8 (percentByte byte) = [37, high, low] := by
    have isPercent : String.utf8EncodeChar '%' = [37] := by
      decide
    simp [Text.utf8, percentByte, isPercent, isHigh, isLow]
  have value : hexPair? high low = some byte := by
    simp only [hexPair?, highValue, lowValue, Option.bind_eq_bind,
      Option.bind_some, Nat.div_add_mod, UInt8.ofNat_toNat]
  rw [written]
  simp [percentDecode, value]

theorem percentDecode_flatMap
    (bytes rest : List UInt8) :
    percentDecode
        (Text.utf8 (bytes.flatMap percentByte) ++ rest) =
      bytes ++ percentDecode rest := by
  induction bytes with
  | nil =>
      rfl
  | cons byte others inductionHypothesis =>
      rw [List.flatMap_cons, Text.utf8_append, List.append_assoc,
        percentDecode_percentByte, inductionHypothesis, List.cons_append]

/-- Only the percent sign is written with the byte of the percent sign. -/
theorem percent_notMem_utf8EncodeChar
    {c : Char}
    (notPercent : c ≠ '%') :
    37 ∉ String.utf8EncodeChar c := by
  have code : c.val.toNat ≠ 37 := by
    intro same
    exact notPercent (Char.toNat_inj.mp same)
  fun_cases String.utf8EncodeChar c
  all_goals
    simp only [List.mem_cons, List.not_mem_nil, or_false,
      ← UInt8.toNat_inj, UInt8.toNat_ofNat', UInt8.reduceToNat]
    omega

/-- Decoding gives the bytes of an encoded text back. -/
theorem percentDecode_percentEncode
    (percent : encoded '%' = true)
    (text : List Char) :
    percentDecode (Text.utf8 (percentEncode encoded text)) =
      Text.utf8 text := by
  induction text with
  | nil =>
      rfl
  | cons c rest inductionHypothesis =>
      have together :
          Text.utf8 (c :: rest) =
            String.utf8EncodeChar c ++ Text.utf8 rest :=
        List.flatMap_cons
      rw [percentEncode_cons, Text.utf8_append, together]
      cases isEncoded : encoded c with
      | true =>
          rw [if_pos rfl, percentDecode_flatMap, inductionHypothesis]
      | false =>
          have notPercent : c ≠ '%' := by
            rintro rfl
            rw [percent] at isEncoded
            cases isEncoded
          have left : Text.utf8 [c] = String.utf8EncodeChar c := by
            simp [Text.utf8]
          rw [if_neg Bool.false_ne_true, left,
            percentDecode_append_of_notMem
              (percent_notMem_utf8EncodeChar notPercent),
            inductionHypothesis]

end Url

end CatalogSite
