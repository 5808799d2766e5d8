import CatalogSite.Template.Expansion

namespace CatalogSite.Template

/-!
# Base texts

A base text is a row of pieces: literal characters, plain references, and wraps, which
are references with a row of literals and plain references in braces. The two passes
follow this structure as long as nothing that the first one writes looks like a
reference or a brace to the second one.
-/

/-- Literal characters or a plain reference. -/
inductive Segment where
  | literal (text : List Char)
  | reference (digits : List Char)
  deriving Repr, DecidableEq

/-- A piece of a base text. -/
inductive Piece where
  | plain (segment : Segment)
  | wrap (digit : Char) (inner : List Segment)
  deriving Repr, DecidableEq

/-- The text neither goes on with a digit nor opens a brace. -/
def Apart
    (text : List Char) : Prop :=
  ∀ c, text.head? = some c → c.isDigit = false ∧ c ≠ '\x7b'

/-- The digits of a reference to a parameter behind the first one. -/
structure IsIndex
    (digits : List Char) : Prop where
  nonempty : digits ≠ []
  isDigit : ∀ c ∈ digits, c.isDigit = true
  positive : 1 ≤ digitsValue digits

namespace Segment

/-- How a segment is written in a base text. -/
def written : Segment → List Char
  | .literal text => text
  | .reference digits => '$' :: digits

/-- A segment with its reference replaced by a meaning. -/
def resolved
    (meaning : List Char → List Char) :
    Segment → List Char
  | .literal text => text
  | .reference digits => meaning digits

/-- Whether a segment is a reference. -/
def isReference : Segment → Bool
  | .literal _ => false
  | .reference _ => true

/-- A segment can be told from the text that follows it. -/
def ReadableBefore
    (following : List Char) :
    Segment → Prop
  | .literal text => '$' ∉ text
  | .reference digits => IsIndex digits ∧ Apart following

end Segment

/-- Every segment of a row can be told from what follows it. -/
def ReadableSegments
    (following : List Char) :
    List Segment → Prop
  | [] => True
  | segment :: rest =>
      segment.ReadableBefore (rest.flatMap Segment.written ++ following) ∧
        ReadableSegments following rest

theorem exists_readableBefore_of_mem
    {following : List Char}
    {segments : List Segment}
    {segment : Segment}
    (readable : ReadableSegments following segments)
    (member : segment ∈ segments) :
    ∃ behind, segment.ReadableBefore behind := by
  induction segments with
  | nil =>
      cases member
  | cons next rest inductionHypothesis =>
      obtain ⟨here, later⟩ := readable
      rcases List.mem_cons.mp member with rfl | inRest
      · exact ⟨_, here⟩
      · exact inductionHypothesis later inRest

namespace Piece

/-- How a piece is written in a base text. -/
def written : Piece → List Char
  | .plain segment => segment.written
  | .wrap digit inner =>
      '$' :: digit :: '\x7b' ::
        (inner.flatMap Segment.written ++ ['\x7d'])

/-- What the first pass makes of a piece: a wrap is still there. -/
def halfResolved
    (meaning : List Char → List Char) :
    Piece → List Char
  | .plain segment => segment.resolved meaning
  | .wrap digit inner =>
      '$' :: digit :: '\x7b' ::
        (inner.flatMap (Segment.resolved meaning) ++ ['\x7d'])

/-- What both passes make of a piece. -/
def resolved
    (plainMeaning : List Char → List Char)
    (wrapMeaning : List Char → List Char → List Char) :
    Piece → List Char
  | .plain segment => segment.resolved plainMeaning
  | .wrap digit inner =>
      wrapMeaning [digit]
        (inner.flatMap (Segment.resolved plainMeaning))

end Piece

/-- The digit of a wrap, which is one digit other than zero. -/
def IsWrapDigit
    (digit : Char) : Prop :=
  digit.isDigit = true ∧ digit ≠ '0'

/-- Every piece of a base text can be told from what follows it. -/
def ReadablePieces : List Piece → Prop
  | [] => True
  | .plain segment :: rest =>
      segment.ReadableBefore (rest.flatMap Piece.written) ∧
        ReadablePieces rest
  | .wrap digit inner :: rest =>
      IsWrapDigit digit ∧
        ReadableSegments ('\x7d' :: rest.flatMap Piece.written) inner ∧
        ReadablePieces rest

section Decidability

theorem apart_iff
    {text : List Char} :
    Apart text ↔
      (text.head?.all fun c => !c.isDigit && c ≠ '\x7b') = true := by
  simp [Apart, Option.all_eq_true]

theorem isIndex_iff
    {digits : List Char} :
    IsIndex digits ↔
      digits ≠ [] ∧ digits.all Char.isDigit = true ∧
        1 ≤ digitsValue digits := by
  rw [List.all_eq_true]
  exact
    ⟨fun isIndex =>
        ⟨isIndex.nonempty, isIndex.isDigit, isIndex.positive⟩,
      fun ⟨nonempty, isDigit, positive⟩ => ⟨nonempty, isDigit, positive⟩⟩

instance
    (text : List Char) :
    Decidable (Apart text) :=
  decidable_of_iff _ apart_iff.symm

instance
    (digits : List Char) :
    Decidable (IsIndex digits) :=
  decidable_of_iff _ isIndex_iff.symm

instance
    (digit : Char) :
    Decidable (IsWrapDigit digit) :=
  inferInstanceAs (Decidable (_ ∧ _))

instance
    (segment : Segment)
    (following : List Char) :
    Decidable (segment.ReadableBefore following) :=
  match segment with
  | .literal text => inferInstanceAs (Decidable ('$' ∉ text))
  | .reference digits =>
      inferInstanceAs (Decidable (IsIndex digits ∧ Apart following))

instance decidableReadableSegments
    (following : List Char) :
    (segments : List Segment) →
      Decidable (ReadableSegments following segments)
  | [] => inferInstanceAs (Decidable True)
  | _ :: rest =>
      have := decidableReadableSegments following rest
      inferInstanceAs (Decidable (_ ∧ _))

instance decidableReadablePieces :
    (pieces : List Piece) → Decidable (ReadablePieces pieces)
  | [] => inferInstanceAs (Decidable True)
  | .plain _ :: rest =>
      have := decidableReadablePieces rest
      inferInstanceAs (Decidable (_ ∧ _))
  | .wrap _ _ :: rest =>
      have := decidableReadablePieces rest
      inferInstanceAs (Decidable (_ ∧ _ ∧ _))

end Decidability

section FirstPass

variable {meaning : List Char → List Char}

/-- A text without dollar signs passes unchanged. -/
theorem substitutePlain_append
    {text : List Char}
    (noDollar : '$' ∉ text)
    (after : List Char) :
    substitutePlain meaning none (text ++ after) =
      text ++ substitutePlain meaning none after := by
  induction text with
  | nil =>
      rfl
  | cons c rest inductionHypothesis =>
      obtain ⟨different, restFree⟩ : c ≠ '$' ∧ '$' ∉ rest := by
        simpa [eq_comm] using noDollar
      rw [List.cons_append, substitutePlain, if_neg different,
        inductionHypothesis restFree]
      rfl

/-- The digits behind a dollar sign are collected. -/
theorem substitutePlain_digits
    {digits : List Char}
    (isDigit : ∀ c ∈ digits, c.isDigit = true)
    (read after : List Char) :
    substitutePlain meaning (some read) (digits ++ after) =
      substitutePlain meaning (some (read ++ digits)) after := by
  induction digits generalizing read with
  | nil =>
      rw [List.nil_append, List.append_nil]
  | cons c rest inductionHypothesis =>
      obtain ⟨first, restDigits⟩ := List.forall_mem_cons.mp isDigit
      rw [List.cons_append, substitutePlain, if_pos first,
        inductionHypothesis restDigits, List.append_assoc]
      rfl

/-- A plain reference is replaced by its meaning. -/
theorem substitutePlain_reference
    {digits after : List Char}
    (nonempty : digits ≠ [])
    (isDigit : ∀ c ∈ digits, c.isDigit = true)
    (apart : Apart after) :
    substitutePlain meaning none ('$' :: (digits ++ after)) =
      meaning digits ++ substitutePlain meaning none after := by
  rw [substitutePlain, if_pos rfl, substitutePlain_digits isDigit,
    List.nil_append]
  cases after with
  | nil =>
      simp [substitutePlain, referenceText, nonempty]
  | cons c rest =>
      obtain ⟨noDigit, noBrace⟩ := apart c rfl
      have isReference :
          referenceText meaning digits (some c) = meaning digits := by
        simp [referenceText, noBrace, nonempty]
      have read :
          substitutePlain meaning (some digits) (c :: rest) =
            referenceText meaning digits (some c) ++
              substitutePlain meaning none (c :: rest) := by
        simp [substitutePlain, noDigit]
      rw [read, isReference]

/-- The first pass leaves the head of a wrap alone. -/
theorem substitutePlain_wrap
    {digit : Char}
    (isDigit : digit.isDigit = true)
    (after : List Char) :
    substitutePlain meaning none ('$' :: digit :: '\x7b' :: after) =
      '$' :: digit :: '\x7b' :: substitutePlain meaning none after := by
  have noDigit : ('\x7b').isDigit = false := by
    decide
  simp [substitutePlain, isDigit, noDigit, referenceText]

theorem substitutePlain_segment
    {segment : Segment}
    {after : List Char}
    (readable : segment.ReadableBefore after) :
    substitutePlain meaning none (segment.written ++ after) =
      segment.resolved meaning ++ substitutePlain meaning none after := by
  cases segment with
  | literal text =>
      exact substitutePlain_append readable after
  | reference digits =>
      obtain ⟨isIndex, apart⟩ := readable
      exact substitutePlain_reference isIndex.nonempty isIndex.isDigit
        apart

theorem substitutePlain_segments
    {segments : List Segment}
    {after : List Char}
    (readable : ReadableSegments after segments) :
    substitutePlain meaning none
        (segments.flatMap Segment.written ++ after) =
      segments.flatMap (Segment.resolved meaning) ++
        substitutePlain meaning none after := by
  induction segments with
  | nil =>
      rfl
  | cons segment rest inductionHypothesis =>
      obtain ⟨here, later⟩ := readable
      rw [List.flatMap_cons, List.append_assoc,
        substitutePlain_segment here, inductionHypothesis later,
        List.flatMap_cons, List.append_assoc]

/-- The first pass replaces the plain references of a base text, those in braces too. -/
theorem substitutePlain_pieces
    {pieces : List Piece}
    (readable : ReadablePieces pieces) :
    substitutePlain meaning none (pieces.flatMap Piece.written) =
      pieces.flatMap (Piece.halfResolved meaning) := by
  induction pieces with
  | nil =>
      rfl
  | cons piece rest inductionHypothesis =>
      cases piece with
      | plain segment =>
          obtain ⟨here, later⟩ := readable
          rw [List.flatMap_cons, List.flatMap_cons, Piece.written,
            substitutePlain_segment here, inductionHypothesis later]
          rfl
      | wrap digit inner =>
          obtain ⟨⟨isDigit, -⟩, insideReadable, later⟩ := readable
          have closing :
              substitutePlain meaning none
                  ('\x7d' :: rest.flatMap Piece.written) =
                '\x7d' :: rest.flatMap (Piece.halfResolved meaning) := by
            rw [substitutePlain, if_neg (by decide),
              inductionHypothesis later]
          rw [List.flatMap_cons, Piece.written, List.cons_append,
            List.cons_append, List.cons_append, List.append_assoc,
            List.singleton_append, substitutePlain_wrap isDigit,
            substitutePlain_segments insideReadable, closing]
          simp [Piece.halfResolved]

end FirstPass

section SecondPass

variable {meaning : List Char → List Char → List Char}

theorem substituteWraps_nil :
    substituteWraps meaning [] = [] := by
  rw [substituteWraps]

theorem substituteWraps_cons_of_ne
    {c : Char}
    (noDollar : c ≠ '$')
    (rest : List Char) :
    substituteWraps meaning (c :: rest) =
      c :: substituteWraps meaning rest := by
  rw [substituteWraps, if_neg noDollar]

theorem substituteWraps_of_none
    {rest : List Char}
    (noWrap : wrapping? rest = none) :
    substituteWraps meaning ('$' :: rest) =
      '$' :: substituteWraps meaning rest := by
  rw [substituteWraps, if_pos rfl]
  split
  · rename_i found
    rw [noWrap] at found
    cases found
  · rfl

theorem substituteWraps_of_some
    {rest digits inner after : List Char}
    (isWrap : wrapping? rest = some (digits, inner, after)) :
    substituteWraps meaning ('$' :: rest) =
      meaning digits inner ++ substituteWraps meaning after := by
  rw [substituteWraps, if_pos rfl]
  split
  · rename_i found
    rw [isWrap] at found
    cases found
    rfl
  · rename_i noWrap
    rw [isWrap] at noWrap
    cases noWrap

/-- A text without dollar signs passes unchanged. -/
theorem substituteWraps_append
    {text : List Char}
    (noDollar : '$' ∉ text)
    (after : List Char) :
    substituteWraps meaning (text ++ after) =
      text ++ substituteWraps meaning after := by
  induction text with
  | nil =>
      rfl
  | cons c rest inductionHypothesis =>
      obtain ⟨different, restFree⟩ : c ≠ '$' ∧ '$' ∉ rest := by
        simpa [eq_comm] using noDollar
      rw [List.cons_append, substituteWraps_cons_of_ne different,
        inductionHypothesis restFree]
      rfl

/-- Neither a brace nor a line break ends the inner text of a wrap early. -/
def StaysInBraces
    (inner : List Char) : Prop :=
  ∀ c ∈ inner, c ≠ '\x7d' ∧ c ≠ '\n'

instance
    (inner : List Char) :
    Decidable (StaysInBraces inner) :=
  decidable_of_iff
    (inner.all (fun c => c ≠ '\x7d' && c ≠ '\n') = true)
    (by simp [StaysInBraces])

theorem braced?_append
    {inner : List Char}
    (stays : StaysInBraces inner)
    (after : List Char) :
    braced? (inner ++ '\x7d' :: after) = some (inner, after) := by
  induction inner with
  | nil =>
      rfl
  | cons c rest inductionHypothesis =>
      obtain ⟨⟨noBrace, noBreak⟩, restStays⟩ := List.forall_mem_cons.mp stays
      rw [List.cons_append, braced?, if_neg noBrace, if_neg noBreak,
        inductionHypothesis restStays]
      rfl

theorem wrapping?_append
    {digits inner : List Char}
    (nonempty : digits ≠ [])
    (isDigit : ∀ c ∈ digits, c.isDigit = true)
    (stays : StaysInBraces inner)
    (after : List Char) :
    wrapping? (digits ++ '\x7b' :: (inner ++ '\x7d' :: after)) =
      some (digits, inner, after) := by
  have noDigit : ¬ ('\x7b').isDigit = true := by
    decide
  have taken :
      (digits ++ '\x7b' :: (inner ++ '\x7d' :: after)).takeWhile
          Char.isDigit =
        digits := by
    rw [List.takeWhile_append_of_pos isDigit,
      List.takeWhile_cons_of_neg noDigit, List.append_nil]
  have dropped :
      (digits ++ '\x7b' :: (inner ++ '\x7d' :: after)).dropWhile
          Char.isDigit =
        '\x7b' :: (inner ++ '\x7d' :: after) := by
    rw [List.dropWhile_append_of_pos isDigit,
      List.dropWhile_cons_of_neg noDigit]
  simp [wrapping?, taken, dropped, nonempty, braced?_append stays]

/-- A wrap is replaced by its meaning. -/
theorem substituteWraps_wrap
    {digits inner : List Char}
    (nonempty : digits ≠ [])
    (isDigit : ∀ c ∈ digits, c.isDigit = true)
    (stays : StaysInBraces inner)
    (after : List Char) :
    substituteWraps meaning
        ('$' :: (digits ++ '\x7b' :: (inner ++ '\x7d' :: after))) =
      meaning digits inner ++ substituteWraps meaning after :=
  substituteWraps_of_some (wrapping?_append nonempty isDigit stays after)

end SecondPass

/-- What the first pass makes of a piece does not mislead the second pass. -/
def Piece.SettledBy
    (meaning : List Char → List Char) :
    Piece → Prop
  | .plain segment => '$' ∉ segment.resolved meaning
  | .wrap _ inner => StaysInBraces (inner.flatMap (Segment.resolved meaning))

/-- The second pass replaces the wraps that the first one has left. -/
theorem substituteWraps_pieces
    {plainMeaning : List Char → List Char}
    {wrapMeaning : List Char → List Char → List Char}
    {pieces : List Piece}
    (readable : ReadablePieces pieces)
    (settled : ∀ piece ∈ pieces, piece.SettledBy plainMeaning) :
    substituteWraps wrapMeaning
        (pieces.flatMap (Piece.halfResolved plainMeaning)) =
      pieces.flatMap (Piece.resolved plainMeaning wrapMeaning) := by
  induction pieces with
  | nil =>
      exact substituteWraps_nil
  | cons piece rest inductionHypothesis =>
      obtain ⟨here, laterSettled⟩ := List.forall_mem_cons.mp settled
      rw [List.flatMap_cons, List.flatMap_cons]
      cases piece with
      | plain segment =>
          obtain ⟨-, later⟩ := readable
          rw [Piece.halfResolved, substituteWraps_append here,
            inductionHypothesis later laterSettled]
          rfl
      | wrap digit inner =>
          obtain ⟨⟨isDigit, -⟩, -, later⟩ := readable
          have single : ∀ c ∈ [digit], c.isDigit = true := by
            simpa using isDigit
          have replaced :
              substituteWraps wrapMeaning
                  ('$' :: ([digit] ++ '\x7b' ::
                    (inner.flatMap (Segment.resolved plainMeaning) ++
                      '\x7d' ::
                        rest.flatMap (Piece.halfResolved plainMeaning)))) =
                wrapMeaning [digit]
                    (inner.flatMap (Segment.resolved plainMeaning)) ++
                  substituteWraps wrapMeaning
                    (rest.flatMap (Piece.halfResolved plainMeaning)) :=
            substituteWraps_wrap (List.cons_ne_nil digit []) single here _
          rw [inductionHypothesis later laterSettled] at replaced
          simpa [Piece.halfResolved, Piece.resolved] using replaced

/-- Both passes together replace every piece of a base text by what it stands for. -/
theorem substitute_pieces
    {definitions : Definitions}
    {parameters : List Parameter}
    {pieces : List Piece}
    (readable : ReadablePieces pieces)
    (settled :
      ∀ piece ∈ pieces,
        piece.SettledBy (plainMeaning definitions parameters)) :
    substitute definitions parameters (pieces.flatMap Piece.written) =
      pieces.flatMap
        (Piece.resolved (plainMeaning definitions parameters)
          (wrapMeaning definitions parameters)) := by
  rw [substitute, substitutePlain_pieces readable,
    substituteWraps_pieces readable settled]

end CatalogSite.Template
