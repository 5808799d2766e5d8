import CatalogSite.Proofs.Template.BaseText
import CatalogSite.Proofs.Template.SlotReading
import Mathlib.Data.List.Basic

namespace CatalogSite.Template

/-!
# What the pieces of a base text mean

A reference means the text of its parameter, and a wrap puts the tags of an element
around what stands in its braces. The meanings are stated here piece by piece and
without passes. Expanding a placeholder gives the meanings in a row, provided that no
parameter brings a dollar sign of its own and nothing in braces closes them early.
-/

/-- The text of a parameter where it is not put around anything. -/
def Parameter.shown
    (definitions : Definitions) :
    Parameter → List Char
  | .text content => content.toList
  | .definition key =>
      ((definitions.text? key).map String.toList).getD fallback
  | .element content =>
      if content = "" then fallback else '<' :: (content.toList ++ ['>'])
  | .invalid => fallback

/-- What a plain reference means: the text of its parameter, if there is one. -/
def Segment.meaning
    (definitions : Definitions)
    (parameters : List Parameter) :
    Segment → List Char
  | .literal text => text
  | .reference digits =>
      (parameters[digitsValue digits]?.map
        (Parameter.shown definitions)).getD fallback

/-- A tag starts with its name, and does not hold the border between two tags. -/
structure IsTag
    (tag : List Char) : Prop where
  named : ∃ c rest, tag = c :: rest ∧ Text.isBlank c = false
  single : ¬ ['>', '<'] <:+: tag

/-- An element consists of some tags, joined by `><`. -/
structure ConsistsOf
    (content : List Char)
    (tags : List (List Char)) : Prop where
  nonempty : tags ≠ []
  joined : content = ['>', '<'].intercalate tags
  isTag : ∀ tag ∈ tags, IsTag tag

/-- All tags, opened in order. -/
def openings
    (tags : List (List Char)) :
    List Char :=
  tags.flatMap fun tag => '<' :: (tag ++ ['>'])

/-- The names of all tags, closed in reverse order. -/
def closings
    (tags : List (List Char)) :
    List Char :=
  tags.reverse.flatMap fun tag =>
    '<' :: '/' :: (tag.takeWhile (!Text.isBlank ·) ++ ['>'])

/-- What a wrap means, given its parameter and what stands in its braces. -/
inductive Parameter.Wraps
    (definitions : Definitions)
    (inner : List Char) :
    Option Parameter → List Char → Prop where
  | outOfRange :
      Wraps definitions inner none fallback
  | shown
      {parameter : Parameter} :
      (∀ content, parameter ≠ .element content) →
      Wraps definitions inner (some parameter)
        (parameter.shown definitions)
  | element
      {content : String}
      {tags : List (List Char)} :
      ConsistsOf content.toList tags →
      Wraps definitions inner (some (.element content))
        (openings tags ++ (inner ++ closings tags))

/-- What a piece of a base text means. -/
inductive Piece.Means
    (definitions : Definitions)
    (parameters : List Parameter) :
    Piece → List Char → Prop where
  | plain
      (segment : Segment) :
      Means definitions parameters (.plain segment)
        (segment.meaning definitions parameters)
  | wrap
      {digit : Char}
      {inner : List Segment}
      {meaning : List Char} :
      Parameter.Wraps definitions
        (inner.flatMap (Segment.meaning definitions parameters))
        parameters[digitsValue [digit]]? meaning →
      Means definitions parameters (.wrap digit inner) meaning

/-- A row of pieces means what its pieces mean, one after the other. -/
inductive RowMeans
    (definitions : Definitions)
    (parameters : List Parameter) :
    List Piece → List Char → Prop where
  | nil :
      RowMeans definitions parameters [] []
  | cons
      {piece : Piece}
      {rest : List Piece}
      {here later : List Char} :
      piece.Means definitions parameters here →
      RowMeans definitions parameters rest later →
      RowMeans definitions parameters (piece :: rest) (here ++ later)

/-- The text of a parameter brings no dollar sign, and that of an element no line break. -/
def Parameter.Clean
    (definitions : Definitions) :
    Parameter → Prop
  | .text content => '$' ∉ content.toList
  | .definition key =>
      ∀ content ∈ definitions.text? key, '$' ∉ content.toList
  | .element content =>
      '$' ∉ content.toList ∧ '\n' ∉ content.toList
  | .invalid => True

/-- What stands in the braces of a wrap, once its references are resolved, stays there. -/
def Piece.ClosesOnce
    (definitions : Definitions)
    (parameters : List Parameter) :
    Piece → Prop
  | .plain _ => True
  | .wrap _ inner =>
      StaysInBraces
        (inner.flatMap (Segment.meaning definitions parameters))

instance
    (definitions : Definitions)
    (parameter : Parameter) :
    Decidable (parameter.Clean definitions) :=
  match parameter with
  | .text content => inferInstanceAs (Decidable ('$' ∉ content.toList))
  | .definition key =>
      inferInstanceAs (Decidable
        (∀ content ∈ definitions.text? key, '$' ∉ content.toList))
  | .element _ => inferInstanceAs (Decidable (_ ∧ _))
  | .invalid => inferInstanceAs (Decidable True)

instance
    (definitions : Definitions)
    (parameters : List Parameter)
    (piece : Piece) :
    Decidable (piece.ClosesOnce definitions parameters) :=
  match piece with
  | .plain _ => inferInstanceAs (Decidable True)
  | .wrap _ inner =>
      inferInstanceAs (Decidable
        (StaysInBraces
          (inner.flatMap (Segment.meaning definitions parameters))))

/-- An element that is put around something consists of tags. -/
def Piece.WrapsTags
    (parameters : List Parameter) :
    Piece → Prop
  | .plain _ => True
  | .wrap digit _ =>
      ∀ content,
        parameters[digitsValue [digit]]? = some (.element content) →
          ∃ tags, ConsistsOf content.toList tags

section Elements

theorem tags_cons
    {c : Char}
    {rest first : List Char}
    {others : List (List Char)}
    (noBorder : ¬ ['>', '<'] <+: c :: rest)
    (split : tags rest = first :: others) :
    tags (c :: rest) = (c :: first) :: others := by
  rw [tags]
  · rw [split]
  · intro later isRight isLeft
    subst isRight
    subst isLeft
    exact noBorder ⟨later, rfl⟩

/-- A text that holds no border is a single tag. -/
theorem tags_of_single
    {tag : List Char}
    (single : ¬ ['>', '<'] <:+: tag) :
    tags tag = [tag] := by
  induction tag with
  | nil =>
      rfl
  | cons c rest inductionHypothesis =>
      have restSingle : ¬ ['>', '<'] <:+: rest :=
        fun inside => single (inside.trans (List.suffix_cons c rest).isInfix)
      exact tags_cons (fun atFront => single atFront.isInfix)
        (inductionHypothesis restSingle)

/-- The first border ends the first tag. -/
theorem tags_append
    {tag : List Char}
    (single : ¬ ['>', '<'] <:+: tag)
    (after : List Char) :
    tags (tag ++ '>' :: '<' :: after) = tag :: tags after := by
  induction tag with
  | nil =>
      rfl
  | cons c rest inductionHypothesis =>
      have restSingle : ¬ ['>', '<'] <:+: rest :=
        fun inside => single (inside.trans (List.suffix_cons c rest).isInfix)
      refine tags_cons ?_ (inductionHypothesis restSingle)
      -- A border at the front would lie inside the tag, or end with a closing bracket.
      intro atFront
      cases rest with
      | nil =>
          simp at atFront
      | cons next later =>
          refine single (List.IsPrefix.isInfix ?_)
          simpa using atFront

/-- Splitting an element gives the tags it consists of. -/
theorem tags_of_consistsOf
    {content : List Char}
    {row : List (List Char)}
    (consists : ConsistsOf content row) :
    tags content = row := by
  obtain ⟨nonempty, rfl, isTag⟩ := consists
  induction row with
  | nil =>
      exact (nonempty rfl).elim
  | cons tag rest inductionHypothesis =>
      obtain ⟨here, later⟩ := List.forall_mem_cons.mp isTag
      cases rest with
      | nil =>
          simpa using tags_of_single here.single
      | cons next more =>
          have restTags :=
            inductionHypothesis (List.cons_ne_nil next more) later
          rw [List.intercalate_cons_cons, List.append_assoc,
            List.cons_append, List.cons_append, List.nil_append,
            tags_append here.single, restTags]

theorem tagName?_of_named
    {tag : List Char}
    (named : ∃ c rest, tag = c :: rest ∧ Text.isBlank c = false)
    (noBreak : '\n' ∉ tag) :
    tagName? tag = some (tag.takeWhile (!Text.isBlank ·)) := by
  obtain ⟨c, rest, rfl, ink⟩ := named
  unfold tagName?
  simp [ink, noBreak]

/-- Wrapping in tags one by one opens all of them and closes them in reverse order. -/
theorem foldr_wrapInTag
    {row : List (List Char)}
    (isTag : ∀ tag ∈ row, IsTag tag)
    (noBreak : ∀ tag ∈ row, '\n' ∉ tag)
    (inner : List Char) :
    row.foldr wrapInTag inner =
      openings row ++ (inner ++ closings row) := by
  induction row with
  | nil =>
      simp [openings, closings]
  | cons tag rest inductionHypothesis =>
      obtain ⟨here, later⟩ := List.forall_mem_cons.mp isTag
      obtain ⟨hereWhole, laterWhole⟩ := List.forall_mem_cons.mp noBreak
      rw [List.foldr_cons, inductionHypothesis later laterWhole,
        wrapInTag, tagName?_of_named here.named hereWhole]
      simp [openings, closings]

/-- What stands in one tag stands in the element. -/
theorem mem_intercalate
    {separator tag : List Char}
    {row : List (List Char)}
    (member : tag ∈ row)
    {c : Char}
    (inside : c ∈ tag) :
    c ∈ separator.intercalate row := by
  induction row with
  | nil =>
      cases member
  | cons first rest inductionHypothesis =>
      cases rest with
      | nil =>
          rw [List.mem_singleton] at member
          subst member
          simpa using inside
      | cons next more =>
          rw [List.intercalate_cons_cons, List.mem_append]
          rcases List.mem_cons.mp member with rfl | later
          · exact .inl (List.mem_append_left separator inside)
          · exact .inr (inductionHypothesis later)

theorem wrap?_of_consistsOf
    {content : List Char}
    {row : List (List Char)}
    (consists : ConsistsOf content row)
    (noBreak : '\n' ∉ content)
    (inner : List Char) :
    wrap? content inner =
      some (openings row ++ (inner ++ closings row)) := by
  have rowNoBreak : ∀ tag ∈ row, '\n' ∉ tag := by
    intro tag member isBreak
    apply noBreak
    rw [consists.joined]
    exact mem_intercalate member isBreak
  have changes : openings row ++ (inner ++ closings row) ≠ inner := by
    intro same
    obtain ⟨tag, rest, rfl⟩ := List.exists_cons_of_ne_nil consists.nonempty
    have lengths := congrArg List.length same
    simp [openings] at lengths
    omega
  simp only [wrap?, tags_of_consistsOf consists,
    foldr_wrapInTag consists.isTag rowNoBreak, if_neg changes]

end Elements

section ReadElements

variable {definitions : Definitions}

/-- An element that a slot provides starts with its first tag, and with no blank. -/
theorem Slot.head_of_element
    {text : List Char}
    {here : List Parameter}
    (slot : Slot definitions text here)
    {content : String}
    (member : .element content ∈ here)
    {c : Char}
    (isHead : content.toList.head? = some c) :
    Text.isBlank c = false := by
  cases slot with
  | quoted =>
      simp at member
  | @unquoted first rest notQuote ink noComma =>
      rw [List.mem_singleton, unquotedParameter] at member
      split at member
      · split at member
        · rename_i isElement
          obtain ⟨-, noSpacedTag⟩ := isElement
          rename_i opensTag
          cases Parameter.element.inj member
          rw [Bool.eq_false_iff]
          intro blank
          apply noSpacedTag
          rw [String.toList_ofList, List.tail_cons] at isHead
          rcases List.eq_nil_or_concat rest with
            rfl | ⟨before, last, isConcat⟩
          · cases isHead
          · rw [List.concat_eq_append] at isConcat
            subst isConcat
            rw [List.dropLast_concat] at isHead
            obtain ⟨more, rfl⟩ := List.head?_eq_some_iff.mp isHead
            refine ⟨[], c, more ++ [last], ?_, .inr blank⟩
            simpa using opensTag
        · cases member
      · split at member <;> cases member

theorem Slots.head_of_element
    {text : List Char}
    {provided : List Parameter}
    (slots : Slots definitions text provided)
    {content : String}
    (member : .element content ∈ provided)
    {c : Char}
    (isHead : content.toList.head? = some c) :
    Text.isBlank c = false := by
  induction slots with
  | nothing =>
      cases member
  | skipped _ _ inductionHypothesis =>
      rcases List.mem_cons.mp member with isFirst | later
      · cases isFirst
      · exact inductionHypothesis later
  | unclosed =>
      rw [List.mem_singleton] at member
      cases member
  | last _ slot =>
      exact slot.head_of_element member isHead
  | followed _ slot _ inductionHypothesis =>
      rcases List.mem_append.mp member with inHere | later
      · exact slot.head_of_element inHere isHead
      · exact inductionHypothesis later

/-- What has been read from a placeholder is what its slots provide. -/
theorem slots_of_parameters?
    {body : List Char}
    {parameters : List Parameter}
    (read : parameters? body definitions = some parameters) :
    Slots definitions body parameters := by
  have defined : definitions.isEmpty = false := by
    cases isEmpty : definitions.isEmpty with
    | false =>
        rfl
    | true =>
        simp [parameters?, isEmpty] at read
  obtain ⟨provided, slots⟩ := exists_slots definitions body
  rw [parameters?_eq_admitted? defined slots, admitted?] at read
  split at read
  · cases read
    exact slots
  · cases read

end ReadElements

section Meanings

variable
  {definitions : Definitions}
  {first : Parameter}
  {others : List Parameter}

/-- The parameters behind the first one can be referred to safely. -/
structure SafeParameters
    (definitions : Definitions)
    (others : List Parameter) : Prop where
  clean : ∀ parameter ∈ others, parameter.Clean definitions
  named :
    ∀ content, .element content ∈ others →
      ∀ c, content.toList.head? = some c → Text.isBlank c = false

/-- A reference that is not to the first parameter finds one of the others. -/
theorem mem_of_isIndex
    {digits : List Char}
    (isIndex : IsIndex digits)
    {parameter : Parameter}
    (found : (first :: others)[digitsValue digits]? = some parameter) :
    parameter ∈ others := by
  obtain ⟨position, isSuccessor⟩ :=
    Nat.exists_eq_add_of_le' isIndex.positive
  rw [isSuccessor, List.getElem?_cons_succ] at found
  exact List.mem_of_getElem? found

theorem isIndex_of_isWrapDigit
    {digit : Char}
    (isWrapDigit : IsWrapDigit digit) :
    IsIndex [digit] := by
  obtain ⟨isDigit, notZero⟩ := isWrapDigit
  refine
    { nonempty := List.cons_ne_nil digit []
      isDigit := by simpa using isDigit
      positive := ?_ }
  have bounds : '0'.toNat ≤ digit.toNat ∧ digit.toNat ≤ '9'.toNat := by
    simpa [Char.isDigit, UInt32.le_iff_toNat_le] using isDigit
  have different : digit.toNat ≠ '0'.toNat :=
    fun same => notZero (Char.toNat_inj.mp same)
  have value : digitsValue [digit] = digit.toNat - '0'.toNat := by
    simp [digitsValue, digitValue]
  omega

theorem dollar_notMem_fallback : '$' ∉ fallback := by
  decide

theorem dollar_notMem_shown
    {parameter : Parameter}
    (clean : parameter.Clean definitions) :
    '$' ∉ parameter.shown definitions := by
  cases parameter with
  | text content =>
      exact clean
  | definition key =>
      cases found : definitions.text? key with
      | none =>
          simpa [Parameter.shown, found] using dollar_notMem_fallback
      | some content =>
          simpa [Parameter.shown, found] using clean content found
  | element content =>
      obtain ⟨noDollar, -⟩ := clean
      rw [Parameter.shown]
      split
      · exact dollar_notMem_fallback
      · simp [noDollar]
  | invalid =>
      exact dollar_notMem_fallback

/-- A plain reference is written as the text of its parameter. -/
theorem plainText?_eq_shown
    {parameter : Parameter}
    (clean : parameter.Clean definitions)
    (named :
      ∀ content, parameter = .element content →
        ∀ c, content.toList.head? = some c → Text.isBlank c = false) :
    (parameter.plainText? definitions).getD fallback =
      parameter.shown definitions := by
  cases parameter with
  | text content =>
      rfl
  | definition key =>
      rfl
  | element content =>
      obtain ⟨-, noBreak⟩ := clean
      rw [Parameter.shown]
      split
      · rename_i isEmpty
        subst isEmpty
        rfl
      · rename_i notEmpty
        obtain ⟨c, rest, shape⟩ :=
          List.exists_cons_of_ne_nil
            (fun nothing => notEmpty (String.toList_eq_nil_iff.mp nothing))
        have isNamed :
            ∃ c rest, content.toList = c :: rest ∧
              Text.isBlank c = false :=
          ⟨c, rest, shape, named content rfl c (by rw [shape]; rfl)⟩
        simp [Parameter.plainText?, openingTag?,
          tagName?_of_named isNamed noBreak]
  | invalid =>
      rfl

/-- A readable segment is replaced by its meaning. -/
theorem Segment.resolved_eq_meaning
    (safe : SafeParameters definitions others)
    {segment : Segment}
    {following : List Char}
    (readable : segment.ReadableBefore following) :
    segment.resolved (plainMeaning definitions (first :: others)) =
      segment.meaning definitions (first :: others) := by
  cases segment with
  | literal text =>
      rfl
  | reference digits =>
      obtain ⟨isIndex, -⟩ := readable
      rw [resolved, meaning, plainMeaning, Parameter.atIndex?]
      cases found : (first :: others)[digitsValue digits]? with
      | none =>
          rfl
      | some parameter =>
          have member := mem_of_isIndex isIndex found
          have named :
              ∀ content, parameter = .element content →
                ∀ c, content.toList.head? = some c →
                  Text.isBlank c = false := by
            rintro content rfl
            exact safe.named content member
          exact plainText?_eq_shown (safe.clean parameter member) named

theorem Segment.dollar_notMem_meaning
    (safe : SafeParameters definitions others)
    {segment : Segment}
    {following : List Char}
    (readable : segment.ReadableBefore following) :
    '$' ∉ segment.meaning definitions (first :: others) := by
  cases segment with
  | literal text =>
      exact readable
  | reference digits =>
      obtain ⟨isIndex, -⟩ := readable
      rw [meaning]
      cases found : (first :: others)[digitsValue digits]? with
      | none =>
          exact dollar_notMem_fallback
      | some parameter =>
          exact dollar_notMem_shown
            (safe.clean parameter (mem_of_isIndex isIndex found))

theorem flatMap_resolved_eq_meaning
    (safe : SafeParameters definitions others)
    {segments : List Segment}
    {following : List Char}
    (readable : ReadableSegments following segments) :
    segments.flatMap
        (Segment.resolved (plainMeaning definitions (first :: others))) =
      segments.flatMap
        (Segment.meaning definitions (first :: others)) := by
  refine List.flatMap_congr fun segment member => ?_
  obtain ⟨behind, readableHere⟩ :=
    exists_readableBefore_of_mem readable member
  exact Segment.resolved_eq_meaning safe readableHere

/-- A wrap is replaced by what it means. -/
theorem wrapMeaning_of_wraps
    (safe : SafeParameters definitions others)
    {digit : Char}
    (isWrapDigit : IsWrapDigit digit)
    {inner meaning : List Char}
    (wraps :
      Parameter.Wraps definitions inner
        (first :: others)[digitsValue [digit]]? meaning) :
    wrapMeaning definitions (first :: others) [digit] inner = meaning := by
  rw [wrapMeaning, Parameter.atIndex?]
  generalize found : (first :: others)[digitsValue [digit]]? = parameter
    at wraps
  cases wraps with
  | outOfRange =>
      rfl
  | @shown parameter noElement =>
      cases parameter with
      | element content =>
          exact (noElement content rfl).elim
      | text content =>
          rfl
      | definition key =>
          rfl
      | invalid =>
          rfl
  | @element content row consists =>
      have member :=
        mem_of_isIndex (isIndex_of_isWrapDigit isWrapDigit) found
      obtain ⟨-, noBreak⟩ := safe.clean _ member
      have wrapped := wrap?_of_consistsOf consists noBreak inner
      simp [Parameter.wrappedText?, wrapped]

/-- A piece is readable in front of some text. -/
def Piece.IsReadable : Piece → Prop
  | .plain segment => ∃ following, segment.ReadableBefore following
  | .wrap digit inner =>
      IsWrapDigit digit ∧ ∃ following, ReadableSegments following inner

theorem isReadable_of_mem
    {pieces : List Piece}
    (readable : ReadablePieces pieces)
    {piece : Piece}
    (member : piece ∈ pieces) :
    piece.IsReadable := by
  induction pieces with
  | nil =>
      cases member
  | cons next rest inductionHypothesis =>
      cases next with
      | plain segment =>
          obtain ⟨here, later⟩ := readable
          rcases List.mem_cons.mp member with rfl | inRest
          · exact ⟨_, here⟩
          · exact inductionHypothesis later inRest
      | wrap digit inner =>
          obtain ⟨isDigit, here, later⟩ := readable
          rcases List.mem_cons.mp member with rfl | inRest
          · exact ⟨isDigit, _, here⟩
          · exact inductionHypothesis later inRest

theorem Piece.settledBy_of_closesOnce
    (safe : SafeParameters definitions others)
    {piece : Piece}
    (readable : piece.IsReadable)
    (closesOnce : piece.ClosesOnce definitions (first :: others)) :
    piece.SettledBy (plainMeaning definitions (first :: others)) := by
  cases piece with
  | plain segment =>
      obtain ⟨following, readableHere⟩ := readable
      rw [Piece.SettledBy, Segment.resolved_eq_meaning safe readableHere]
      exact Segment.dollar_notMem_meaning safe readableHere
  | wrap digit inner =>
      obtain ⟨-, following, readableHere⟩ := readable
      rw [Piece.SettledBy, flatMap_resolved_eq_meaning safe readableHere]
      exact closesOnce

/-- What both passes make of a piece is what it means. -/
theorem Piece.resolved_of_means
    (safe : SafeParameters definitions others)
    {piece : Piece}
    (readable : piece.IsReadable)
    {meaning : List Char}
    (means : piece.Means definitions (first :: others) meaning) :
    piece.resolved (plainMeaning definitions (first :: others))
        (wrapMeaning definitions (first :: others)) =
      meaning := by
  cases means with
  | plain segment =>
      obtain ⟨following, readableHere⟩ := readable
      exact Segment.resolved_eq_meaning safe readableHere
  | wrap wraps =>
      obtain ⟨isWrapDigit, following, readableHere⟩ := readable
      rw [Piece.resolved, flatMap_resolved_eq_meaning safe readableHere]
      exact wrapMeaning_of_wraps safe isWrapDigit wraps

/-- What both passes make of a row of pieces is what the row means. -/
theorem flatMap_resolved_of_rowMeans
    (safe : SafeParameters definitions others)
    {pieces : List Piece}
    (readable : ∀ piece ∈ pieces, piece.IsReadable)
    {meaning : List Char}
    (means : RowMeans definitions (first :: others) pieces meaning) :
    pieces.flatMap
        (Piece.resolved (plainMeaning definitions (first :: others))
          (wrapMeaning definitions (first :: others))) =
      meaning := by
  induction means with
  | nil =>
      rfl
  | cons here _ inductionHypothesis =>
      obtain ⟨readableHere, readableLater⟩ :=
        List.forall_mem_cons.mp readable
      rw [List.flatMap_cons, Piece.resolved_of_means safe readableHere here,
        inductionHypothesis readableLater]

/-- The parameters of a placeholder are safe once their texts are clean. -/
theorem safeParameters_of_parameters?
    {body : List Char}
    (read : parameters? body definitions = some (first :: others))
    (clean : ∀ parameter ∈ others, parameter.Clean definitions) :
    SafeParameters definitions others where
  clean := clean
  named _ member _ isHead :=
    (slots_of_parameters? read).head_of_element
      (List.mem_cons_of_mem first member) isHead

end Meanings

/-- A wrap has a meaning, provided that an element to be put around it consists of tags. -/
theorem Parameter.exists_wraps
    {parameter : Option Parameter}
    (consists :
      ∀ content, parameter = some (.element content) →
        ∃ tags, ConsistsOf content.toList tags)
    (definitions : Definitions)
    (inner : List Char) :
    ∃ meaning, Parameter.Wraps definitions inner parameter meaning := by
  cases parameter with
  | none =>
      exact ⟨_, .outOfRange⟩
  | some parameter =>
      cases parameter with
      | element content =>
          obtain ⟨tags, ofTags⟩ := consists content rfl
          exact ⟨_, .element ofTags⟩
      | text content =>
          exact ⟨_, .shown (by rintro _ ⟨⟩)⟩
      | definition key =>
          exact ⟨_, .shown (by rintro _ ⟨⟩)⟩
      | invalid =>
          exact ⟨_, .shown (by rintro _ ⟨⟩)⟩

/-- A row of pieces whose elements consist of tags has a meaning. -/
theorem exists_rowMeans
    {parameters : List Parameter}
    {pieces : List Piece}
    (wrapsTags : ∀ piece ∈ pieces, piece.WrapsTags parameters)
    (definitions : Definitions) :
    ∃ meaning, RowMeans definitions parameters pieces meaning := by
  induction pieces with
  | nil =>
      exact ⟨[], .nil⟩
  | cons piece rest inductionHypothesis =>
      obtain ⟨here, later⟩ := List.forall_mem_cons.mp wrapsTags
      obtain ⟨restMeaning, restMeans⟩ := inductionHypothesis later
      cases piece with
      | plain segment =>
          exact ⟨_, .cons (.plain segment) restMeans⟩
      | wrap digit inner =>
          obtain ⟨meaning, wraps⟩ :=
            Parameter.exists_wraps here definitions
              (inner.flatMap (Segment.meaning definitions parameters))
          exact ⟨_, .cons (.wrap wraps) restMeans⟩

/--
Parameter substitution means what its pieces mean.

The placeholder has parameters besides its base text, which is written piece by piece.
No parameter behind the first one brings a dollar sign, no element a line break, and what
stands in braces does not close them early. Then the row of pieces has a meaning if the
elements that are put around something consist of tags, and whatever it means, that is
what the placeholder stands for.
-/
theorem expand_eq_meaning
    {definitions : Definitions}
    {body key base : String}
    {others : List Parameter}
    {pieces : List Piece}
    (read :
      parameters? body.toList definitions =
        some (.definition key :: others))
    (several : others ≠ [])
    (isBase : definitions.text? key = some base)
    (written : base.toList = pieces.flatMap Piece.written)
    (readable : ReadablePieces pieces)
    (clean : ∀ parameter ∈ others, parameter.Clean definitions)
    (closesOnce :
      ∀ piece ∈ pieces,
        piece.ClosesOnce definitions (.definition key :: others)) :
    ((∀ piece ∈ pieces, piece.WrapsTags (.definition key :: others)) →
      ∃ meaning,
        RowMeans definitions (.definition key :: others) pieces
          meaning) ∧
    ∀ meaning,
      RowMeans definitions (.definition key :: others) pieces meaning →
        expand body definitions = String.ofList meaning := by
  refine ⟨fun wrapsTags => exists_rowMeans wrapsTags definitions, ?_⟩
  intro meaning means
  have safe : SafeParameters definitions others :=
    safeParameters_of_parameters? read clean
  have readableHere : ∀ piece ∈ pieces, piece.IsReadable :=
    fun _ member => isReadable_of_mem readable member
  have settled :
      ∀ piece ∈ pieces,
        piece.SettledBy
          (plainMeaning definitions (.definition key :: others)) :=
    fun piece member =>
      Piece.settledBy_of_closesOnce safe (readableHere piece member)
        (closesOnce piece member)
  have replaced :
      substitute definitions (.definition key :: others) base.toList =
        meaning := by
    rw [written, substitute_pieces readable settled]
    exact flatMap_resolved_of_rowMeans safe readableHere means
  obtain ⟨next, later, rfl⟩ := List.exists_cons_of_ne_nil several
  rw [expand, expandChars, read]
  simp only [isBase, replaced]

/--
Two references side by side, the first with a leading zero and an opening brace in its
text, and a wrap with a reference inside that is put into two tags.
-/
theorem expand_eq_meaning_wrapped :
    let definitions : Definitions :=
      .ofTexts [
        ("line", "See $01$2: $3\x7bthe $1\x7d!"), ("page", "index")]
    let body := "line,\"one \x7b\",page,<a href=\"/\"><b>"
    parameters? body.toList definitions =
        some [.definition "line", .text "one \x7b", .definition "page",
          .element "a href=\"/\"><b"] ∧
      expand body definitions =
        "See one \x7bindex: <a href=\"/\"><b>the one \x7b</b></a>!" := by
  intro definitions body
  let others : List Parameter :=
    [.text "one \x7b", .definition "page", .element "a href=\"/\"><b"]
  let pieces : List Piece :=
    [.plain (.literal "See ".toList), .plain (.reference "01".toList),
      .plain (.reference "2".toList), .plain (.literal ": ".toList),
      .wrap '3' [.literal "the ".toList, .reference "1".toList],
      .plain (.literal "!".toList)]
  have read :
      parameters? body.toList definitions =
        some (.definition "line" :: others) := by
    decide +kernel
  have isBase :
      definitions.text? "line" =
        some "See $01$2: $3\x7bthe $1\x7d!" :=
    rfl
  have written :
      "See $01$2: $3\x7bthe $1\x7d!".toList =
        pieces.flatMap Piece.written := by
    decide +kernel
  have readable : ReadablePieces pieces := by
    decide +kernel
  have clean : ∀ parameter ∈ others, parameter.Clean definitions := by
    decide +kernel
  have closesOnce :
      ∀ piece ∈ pieces,
        piece.ClosesOnce definitions (.definition "line" :: others) := by
    decide +kernel
  have consists :
      ConsistsOf "a href=\"/\"><b".toList
        ["a href=\"/\"".toList, "b".toList] := by
    have isLink : IsTag "a href=\"/\"".toList :=
      { named := ⟨'a', " href=\"/\"".toList, by decide +kernel, by decide⟩
        single := by decide +kernel }
    have isBold : IsTag "b".toList :=
      { named := ⟨'b', [], by decide +kernel, by decide⟩
        single := by decide +kernel }
    refine
      { nonempty := List.cons_ne_nil _ _
        joined := by decide +kernel
        isTag := ?_ }
    exact List.forall_mem_cons.mpr
      ⟨isLink, List.forall_mem_cons.mpr
        ⟨isBold, List.forall_mem_nil _⟩⟩
  have found :
      (Parameter.definition "line" :: others)[digitsValue ['3']]? =
        some (.element "a href=\"/\"><b") := by
    decide +kernel
  have wraps
      (inner : List Char) :
      Parameter.Wraps definitions inner
        (Parameter.definition "line" :: others)[digitsValue ['3']]?
        (openings ["a href=\"/\"".toList, "b".toList] ++
          (inner ++ closings ["a href=\"/\"".toList, "b".toList])) := by
    rw [found]
    exact .element consists
  have means :
      RowMeans definitions (.definition "line" :: others) pieces _ :=
    .cons (.plain _) (.cons (.plain _) (.cons (.plain _)
      (.cons (.plain _) (.cons (.wrap (wraps _))
        (.cons (.plain _) .nil)))))
  obtain ⟨-, expands⟩ :=
    expand_eq_meaning read (List.cons_ne_nil _ _) isBase written
      readable clean closesOnce
  exact ⟨read, (expands _ means).trans (by decide +kernel)⟩

end CatalogSite.Template
