import CatalogSite.Text.Utf8

namespace CatalogSite.Text

/-!
# Slices of a text by bytes

A number of bytes can be cut off a text exactly when they are whole characters. So a slice
is the part between two cuts, or nothing where a character stands in the way of a cut, and
it depends on no character behind its end.
-/

variable {text front part rest : List Char} {count first last : Nat} {c : Char}

/-- The number of bytes of a text. -/
def byteLength : List Char → Nat
  | [] => 0
  | c :: rest => c.utf8Size + byteLength rest

theorem byteLength_append
    (front rest : List Char) :
    byteLength (front ++ rest) = byteLength front + byteLength rest := by
  induction front with
  | nil =>
      exact (Nat.zero_add _).symm
  | cons c more inductionHypothesis =>
      rw [List.cons_append, byteLength, byteLength, inductionHypothesis,
        Nat.add_assoc]

theorem length_utf8
    (text : List Char) :
    (utf8 text).length = byteLength text := by
  induction text with
  | nil =>
      rfl
  | cons c rest inductionHypothesis =>
      rw [utf8, List.flatMap_cons, List.length_append,
        String.length_utf8EncodeChar]
      exact congrArg (c.utf8Size + ·) inductionHypothesis

/-- A text of at most one byte is empty or a character of one byte. -/
theorem eq_nil_or_singleton_of_byteLength_le_one
    (short : byteLength text ≤ 1) :
    text = [] ∨ ∃ c : Char, c.utf8Size = 1 ∧ text = [c] := by
  rcases text with _ | ⟨c, _ | ⟨next, later⟩⟩
  · exact .inl rfl
  · have positive := c.utf8Size_pos
    simp only [byteLength] at short
    exact .inr ⟨c, by omega, rfl⟩
  · have positive := c.utf8Size_pos
    have positiveNext := next.utf8Size_pos
    simp only [byteLength] at short
    omega

/-! ## Cuts -/

theorem dropBytes?_cons_of_le
    (fits : c.utf8Size ≤ count) :
    dropBytes? count (c :: rest) =
      dropBytes? (count - c.utf8Size) rest := by
  have positive := c.utf8Size_pos
  obtain ⟨less, rfl⟩ := Nat.exists_eq_succ_of_ne_zero (show count ≠ 0 by omega)
  rw [dropBytes?, if_pos fits]

theorem dropBytes?_cons_of_lt
    (positive : 0 < count)
    (beyond : count < c.utf8Size) :
    dropBytes? count (c :: rest) = none := by
  obtain ⟨less, rfl⟩ := Nat.exists_eq_succ_of_ne_zero (Nat.ne_of_gt positive)
  rw [dropBytes?, if_neg (Nat.not_le_of_gt beyond)]

theorem takeBytes?_cons_of_le
    (fits : c.utf8Size ≤ count) :
    takeBytes? count (c :: rest) =
      (takeBytes? (count - c.utf8Size) rest).map (c :: ·) := by
  have positive := c.utf8Size_pos
  obtain ⟨less, rfl⟩ := Nat.exists_eq_succ_of_ne_zero (show count ≠ 0 by omega)
  rw [takeBytes?, if_pos fits]

theorem takeBytes?_cons_of_lt
    (positive : 0 < count)
    (beyond : count < c.utf8Size) :
    takeBytes? count (c :: rest) = none := by
  obtain ⟨less, rfl⟩ := Nat.exists_eq_succ_of_ne_zero (Nat.ne_of_gt positive)
  rw [takeBytes?, if_neg (Nat.not_le_of_gt beyond)]

/-- Whole characters can be cut off and leave the rest of the text. -/
theorem dropBytes?_append
    (front rest : List Char)
    (more : Nat) :
    dropBytes? (byteLength front + more) (front ++ rest) =
      dropBytes? more rest := by
  induction front with
  | nil =>
      rw [byteLength, Nat.zero_add, List.nil_append]
  | cons c others inductionHypothesis =>
      have size :
          byteLength (c :: others) + more - c.utf8Size =
            byteLength others + more := by
        rw [byteLength]
        omega
      rw [List.cons_append, dropBytes?_cons_of_le, size, inductionHypothesis]
      rw [byteLength]
      omega

theorem takeBytes?_append
    (front rest : List Char)
    (more : Nat) :
    takeBytes? (byteLength front + more) (front ++ rest) =
      (takeBytes? more rest).map (front ++ ·) := by
  induction front with
  | nil =>
      rw [byteLength, Nat.zero_add, List.nil_append]
      simp
  | cons c others inductionHypothesis =>
      have size :
          byteLength (c :: others) + more - c.utf8Size =
            byteLength others + more := by
        rw [byteLength]
        omega
      rw [List.cons_append, takeBytes?_cons_of_le, size, inductionHypothesis,
        Option.map_map]
      · rfl
      · rw [byteLength]
        omega

/-- What is cut off a text consists of whole characters. -/
theorem exists_front_of_dropBytes?
    (cut : dropBytes? count text = some rest) :
    ∃ front, text = front ++ rest ∧ byteLength front = count := by
  fun_induction dropBytes? count text with
  | case1 text =>
      cases cut
      exact ⟨[], rfl, rfl⟩
  | case2 =>
      cases cut
  | case3 count c more fits inductionHypothesis =>
      obtain ⟨front, rfl, size⟩ := inductionHypothesis cut
      refine ⟨c :: front, rfl, ?_⟩
      rw [byteLength, size]
      omega
  | case4 =>
      cases cut

/-- What is taken from a text consists of whole characters. -/
theorem exists_rest_of_takeBytes?
    (taken : takeBytes? count text = some front) :
    ∃ rest, text = front ++ rest ∧ byteLength front = count := by
  fun_induction takeBytes? count text generalizing front with
  | case1 text =>
      cases taken
      exact ⟨text, rfl, rfl⟩
  | case2 =>
      cases taken
  | case3 count c more fits inductionHypothesis =>
      obtain ⟨others, takenMore, rfl⟩ := Option.map_eq_some_iff.mp taken
      obtain ⟨rest, rfl, size⟩ := inductionHypothesis takenMore
      refine ⟨rest, rfl, ?_⟩
      rw [byteLength, size]
      omega
  | case4 =>
      cases taken

/-- A cut within the front of a text does not see the characters behind the front. -/
theorem dropBytes?_append_of_le
    (within : count ≤ byteLength front)
    (rest : List Char) :
    dropBytes? count (front ++ rest) =
      (dropBytes? count front).map (· ++ rest) := by
  induction front generalizing count with
  | nil =>
      obtain rfl := Nat.le_zero.mp within
      simp [dropBytes?]
  | cons c others inductionHypothesis =>
      rw [List.cons_append]
      rcases Nat.eq_zero_or_pos count with rfl | positive
      · simp [dropBytes?]
      · rcases Nat.lt_or_ge count c.utf8Size with beyond | fits
        · rw [dropBytes?_cons_of_lt positive beyond,
            dropBytes?_cons_of_lt positive beyond, Option.map_none]
        · rw [dropBytes?_cons_of_le fits, dropBytes?_cons_of_le fits]
          apply inductionHypothesis
          rw [byteLength] at within
          omega

theorem takeBytes?_append_of_le
    (within : count ≤ byteLength front)
    (rest : List Char) :
    takeBytes? count (front ++ rest) = takeBytes? count front := by
  induction front generalizing count with
  | nil =>
      obtain rfl := Nat.le_zero.mp within
      simp [takeBytes?]
  | cons c others inductionHypothesis =>
      rw [List.cons_append]
      rcases Nat.eq_zero_or_pos count with rfl | positive
      · simp [takeBytes?]
      · rcases Nat.lt_or_ge count c.utf8Size with beyond | fits
        · rw [takeBytes?_cons_of_lt positive beyond,
            takeBytes?_cons_of_lt positive beyond]
        · rw [takeBytes?_cons_of_le fits, takeBytes?_cons_of_le fits]
          refine congrArg (Option.map (c :: ·)) (inductionHypothesis ?_)
          rw [byteLength] at within
          omega

/-! ## Slices -/

/-- A slice holds no other characters than the text. -/
theorem mem_of_mem_byteSlice
    (member : c ∈ byteSlice first last text) :
    c ∈ text := by
  unfold byteSlice at member
  cases sliced :
      (dropBytes? first text).bind (takeBytes? (last - first)) with
  | none =>
      rw [sliced] at member
      cases member
  | some part =>
      rw [sliced] at member
      obtain ⟨rest, cut, taken⟩ := Option.bind_eq_some_iff.mp sliced
      obtain ⟨front, rfl, -⟩ := exists_front_of_dropBytes? cut
      obtain ⟨behind, rfl, -⟩ := exists_rest_of_takeBytes? taken
      exact List.mem_append_right front (List.mem_append_left behind member)

/-- A slice from the front of a text is a prefix of the text. -/
theorem byteSlice_zero_isPrefix
    (count : Nat)
    (text : List Char) :
    byteSlice 0 count text <+: text := by
  simp only [byteSlice, dropBytes?, Option.bind_some, Nat.sub_zero]
  cases taken : takeBytes? count text with
  | none =>
      exact List.nil_prefix
  | some front =>
      obtain ⟨rest, rfl, -⟩ := exists_rest_of_takeBytes? taken
      exact List.prefix_append front rest

/-- Behind a whole front a slice is one of the rest. -/
theorem byteSlice_append
    (front rest : List Char)
    (count : Nat) :
    byteSlice (byteLength front) (byteLength front + count) (front ++ rest) =
      byteSlice 0 count rest := by
  have cut := dropBytes?_append front rest 0
  rw [Nat.add_zero] at cut
  rw [byteSlice, byteSlice, cut, Nat.add_sub_cancel_left, Nat.sub_zero]

/-- A slice of whole characters at the front of a text consists of them. -/
theorem byteSlice_zero_append
    (part rest : List Char) :
    byteSlice 0 (byteLength part) (part ++ rest) = part := by
  have taken := takeBytes?_append part rest 0
  rw [Nat.add_zero] at taken
  simp [byteSlice, dropBytes?, taken, takeBytes?]

/-- A slice within the front of a text does not see the characters behind the front. -/
theorem byteSlice_append_of_le
    (ordered : first ≤ last)
    (within : last ≤ byteLength front)
    (rest : List Char) :
    byteSlice first last (front ++ rest) = byteSlice first last front := by
  rw [byteSlice, byteSlice, dropBytes?_append_of_le (by omega)]
  cases cut : dropBytes? first front with
  | none =>
      rfl
  | some behind =>
      obtain ⟨before, rfl, size⟩ := exists_front_of_dropBytes? cut
      rw [byteLength_append] at within
      have taken :
          takeBytes? (last - first) (behind ++ rest) =
            takeBytes? (last - first) behind :=
        takeBytes?_append_of_le (by omega) rest
      rw [Option.map_some, Option.bind_some, Option.bind_some, taken]

/-- A character of a text begins before a number of bytes and ends behind it. -/
structure Spans
    (count : Nat)
    (text : List Char) :
    Prop where
  within : count ≤ byteLength text
  uncut : dropBytes? count text = none

theorem spans_iff :
    Spans count text ↔
      count ≤ byteLength text ∧ dropBytes? count text = none :=
  ⟨fun spans => ⟨spans.within, spans.uncut⟩, fun both => ⟨both.1, both.2⟩⟩

instance : Decidable (Spans count text) :=
  decidable_of_iff _ spans_iff.symm

/-- Where no character stands in the way of a cut, whole characters stand before it. -/
theorem exists_front_of_not_spans
    (within : count ≤ byteLength text)
    (free : ¬Spans count text) :
    ∃ front rest, text = front ++ rest ∧ byteLength front = count := by
  cases cut : dropBytes? count text with
  | none =>
      exact (free ⟨within, cut⟩).elim
  | some rest =>
      obtain ⟨front, shape, size⟩ := exists_front_of_dropBytes? cut
      exact ⟨front, rest, shape, size⟩

namespace Spans

theorem dropBytes?_eq_none
    (spans : Spans count text)
    (rest : List Char) :
    dropBytes? count (text ++ rest) = none := by
  rw [dropBytes?_append_of_le spans.within, spans.uncut, Option.map_none]

theorem takeBytes?_eq_none
    (spans : Spans count text)
    (rest : List Char) :
    takeBytes? count (text ++ rest) = none := by
  rw [takeBytes?_append_of_le spans.within]
  cases taken : takeBytes? count text with
  | none =>
      rfl
  | some front =>
      obtain ⟨behind, rfl, rfl⟩ := exists_rest_of_takeBytes? taken
      have cut := dropBytes?_append front behind 0
      rw [Nat.add_zero, spans.uncut] at cut
      simp [dropBytes?] at cut

/-- There is no slice that begins within a character. -/
theorem byteSlice_eq_nil
    (spans : Spans first text)
    (rest : List Char) :
    byteSlice first last (text ++ rest) = [] := by
  rw [byteSlice, spans.dropBytes?_eq_none, Option.bind_none, Option.getD_none]

/-- There is no slice from the front that ends within a character. -/
theorem byteSlice_zero_eq_nil
    (spans : Spans last text)
    (rest : List Char) :
    byteSlice 0 last (text ++ rest) = [] := by
  simp [byteSlice, dropBytes?, spans.takeBytes?_eq_none]

end Spans

end CatalogSite.Text
