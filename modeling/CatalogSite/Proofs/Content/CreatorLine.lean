import CatalogSite.Content.SearchPage
import CatalogSite.Proofs.Template.Dependence
import CatalogSite.Proofs.Template.SecondPass
import Mathlib.Data.List.Basic

namespace CatalogSite.SearchPage

open Template

/-!
# The line that names a creator

A translation gives the words of the line, with `$1` wherever the name goes. The first
pass puts the name in, and the second pass reads what the first one has written: a wrap in
the name, or one that the name and the words around it make up, is replaced there. So the
line says the name itself only where it holds no wrap, or where the name is one wrap that
stands for the name again.
-/

/-- Words without braces, with `$1` between them. -/
structure IsCreatorPattern
    (segments : List Segment) : Prop where
  readable : ReadableSegments [] segments
  onlyName : ∀ digits, .reference digits ∈ segments → digits = ['1']
  noBrace : ∀ text, .literal text ∈ segments → '\x7b' ∉ text ∧ '\x7d' ∉ text

/-- The words of a line with a name at every reference. -/
def namedLine
    (segments : List Segment)
    (name : List Char) :
    List Char :=
  segments.flatMap (Segment.resolved fun _ => name)

/-- What a reference in the line means: the words themselves, the name, or nothing. -/
def lineMeaning
    (words name digits : List Char) :
    List Char :=
  match digitsValue digits with
  | 0 => words
  | 1 => name
  | _ => fallback

/-- The name is one wrap, and this wrap stands for the name. -/
def IsNameWrap
    (name : List Char) : Prop :=
  ∃ digits inner,
    IsWrap digits inner ∧ digitsValue digits = 1 ∧
      name = '$' :: writtenWrap digits inner

/-- The literals of a row of segments hold no dollar sign. -/
def NoDollar
    (segments : List Segment) : Prop :=
  ∀ text, .literal text ∈ segments → '$' ∉ text

section Line

variable
  {segments : List Segment}
  {name : List Char}
  {meaning : List Char → List Char → List Char}

theorem namedLine_literal
    (text : List Char) :
    namedLine (.literal text :: segments) name =
      text ++ namedLine segments name :=
  rfl

theorem namedLine_reference
    (digits : List Char) :
    namedLine (.reference digits :: segments) name =
      name ++ namedLine segments name :=
  rfl

theorem namedLine_append
    (first second : List Segment)
    (name : List Char) :
    namedLine (first ++ second) name =
      namedLine first name ++ namedLine second name :=
  List.flatMap_append

theorem noDollar_of_readable
    {following : List Char}
    (readable : ReadableSegments following segments) :
    NoDollar segments := by
  intro text member
  obtain ⟨behind, noDollar⟩ :=
    exists_readableBefore_of_mem readable member
  exact noDollar

theorem NoDollar.tail
    {segment : Segment}
    (noDollar : NoDollar (segment :: segments)) :
    NoDollar segments :=
  fun text member => noDollar text (.tail segment member)

/-- A name that ends with a brace is passed by itself at every reference. -/
theorem substituteWraps_namedLine
    (noDollar : NoDollar segments)
    (closed : EndsClosed name) :
    substituteWraps meaning (namedLine segments name) =
      namedLine segments (substituteWraps meaning name) := by
  induction segments with
  | nil =>
      exact substituteWraps_nil
  | cons segment rest inductionHypothesis =>
      have restPassed := inductionHypothesis noDollar.tail
      cases segment with
      | literal text =>
          rw [namedLine_literal, namedLine_literal,
            substituteWraps_append (noDollar text List.mem_cons_self),
            restPassed]
      | reference digits =>
          rw [namedLine_reference, namedLine_reference,
            substituteWraps_append_of_noWrapAcross
              (closed.noWrapAcross _),
            restPassed]

/-- A name without wraps that ends with a brace brings no wrap into the line. -/
theorem not_holdsWrap_namedLine
    (noDollar : NoDollar segments)
    (closed : EndsClosed name)
    (noWrap : ¬ HoldsWrap name) :
    ¬ HoldsWrap (namedLine segments name) := by
  induction segments with
  | nil =>
      exact not_holdsWrap_nil
  | cons segment rest inductionHypothesis =>
      have restFree := inductionHypothesis noDollar.tail
      cases segment with
      | literal text =>
          rwa [namedLine_literal,
            holdsWrap_append_of_notMem (noDollar text List.mem_cons_self)]
      | reference digits =>
          rw [namedLine_reference,
            holdsWrap_append_of_noWrapAcross (closed.noWrapAcross _),
            not_or]
          exact ⟨noWrap, restFree⟩

theorem notMem_namedLine
    {c : Char}
    (notInWords : ∀ text, .literal text ∈ segments → c ∉ text)
    (notInName : c ∉ name) :
    c ∉ namedLine segments name := by
  intro member
  obtain ⟨segment, isSegment, inside⟩ := List.mem_flatMap.mp member
  cases segment with
  | literal text =>
      exact notInWords text isSegment inside
  | reference digits =>
      exact notInName inside

/-- The length of a line grows by the length of the name at every reference. -/
theorem length_namedLine
    (segments : List Segment)
    (name : List Char) :
    (namedLine segments name).length =
      (namedLine segments []).length +
        segments.countP Segment.isReference * name.length := by
  induction segments with
  | nil =>
      simp [namedLine]
  | cons segment rest inductionHypothesis =>
      cases segment with
      | literal text =>
          rw [namedLine_literal, namedLine_literal, List.length_append,
            List.length_append, inductionHypothesis, Nat.add_assoc]
          rfl
      | reference digits =>
          have oneMore :
              (.reference digits :: rest).countP Segment.isReference =
                rest.countP Segment.isReference + 1 :=
            List.countP_cons_of_pos rfl
          rw [namedLine_reference, namedLine_reference, oneMore,
            List.length_append, inductionHypothesis, Nat.add_mul]
          simp only [List.nil_append]
          omega

/-- Lines with a reference differ when the names differ. -/
theorem eq_of_namedLine_eq
    {digits first second : List Char}
    (isReference : .reference digits ∈ segments)
    (same : namedLine segments first = namedLine segments second) :
    first = second := by
  have sameLength : first.length = second.length := by
    have lengths := congrArg List.length same
    rw [length_namedLine segments first, length_namedLine segments second,
      Nat.add_left_cancel_iff] at lengths
    have someReference : 0 < segments.countP Segment.isReference :=
      List.countP_pos_iff.mpr ⟨_, isReference, rfl⟩
    exact Nat.eq_of_mul_eq_mul_left someReference lengths
  obtain ⟨front, later, rfl⟩ := List.append_of_mem isReference
  have frontLength :
      (namedLine front first).length = (namedLine front second).length := by
    rw [length_namedLine front first, length_namedLine front second,
      sameLength]
  rw [namedLine_append, namedLine_append] at same
  have fromName := List.append_inj_right same frontLength
  exact List.append_inj_left fromName sameLength

end Line

section Meaning

variable {words name digits : List Char}

theorem lineMeaning_ne_nil
    (someWords : words ≠ [])
    (someName : name ≠ [])
    (digits : List Char) :
    lineMeaning words name digits ≠ [] := by
  unfold lineMeaning
  split
  · exact someWords
  · exact someName
  · decide

/-- Of all that a reference in the line can mean only the name may end with a brace. -/
theorem lineMeaning_eq_name
    (noBrace : '\x7d' ∉ words)
    (endsWithBrace :
      (lineMeaning words name digits).getLast? = some '\x7d') :
    lineMeaning words name digits = name ∧ digitsValue digits = 1 := by
  have member := List.mem_of_getLast? endsWithBrace
  unfold lineMeaning at member ⊢
  split at member
  · exact absurd member noBrace
  · rename_i isOne
    exact ⟨rfl, isOne⟩
  · exact absurd member (by decide)

end Meaning

namespace IsCreatorPattern

variable
  {segments : List Segment}
  {name : List Char}

theorem notMem_words
    (isPattern : IsCreatorPattern segments) :
    '\x7d' ∉ segments.flatMap Segment.written := by
  intro member
  obtain ⟨segment, isSegment, inside⟩ := List.mem_flatMap.mp member
  cases segment with
  | literal text =>
      exact (isPattern.noBrace text isSegment).2 inside
  | reference digits =>
      have isFirst := isPattern.onlyName digits isSegment
      subst isFirst
      exact absurd inside (by decide)

/-- The words hold nothing of a wrap. -/
theorem notMem_literal
    (isPattern : IsCreatorPattern segments)
    {c : Char}
    (isMark : c ∈ ['$', '\x7b', '\x7d'])
    (text : List Char)
    (isLiteral : .literal text ∈ segments) :
    c ∉ text := by
  simp only [List.mem_cons, List.not_mem_nil, or_false] at isMark
  obtain ⟨noOpening, noClosing⟩ := isPattern.noBrace text isLiteral
  rcases isMark with rfl | rfl | rfl
  · exact noDollar_of_readable isPattern.readable text isLiteral
  · exact noOpening
  · exact noClosing

/-- The first pass puts the name into the line. -/
theorem substitutePlain_words
    (isPattern : IsCreatorPattern segments)
    {words : List Char} :
    substitutePlain (lineMeaning words name) none
        (segments.flatMap Segment.written) =
      namedLine segments name := by
  have resolved :
      substitutePlain (lineMeaning words name) none
          (segments.flatMap Segment.written ++ []) =
        segments.flatMap (Segment.resolved (lineMeaning words name)) ++
          substitutePlain (lineMeaning words name) none [] :=
    substitutePlain_segments isPattern.readable
  rw [List.append_nil, substitutePlain, List.append_nil] at resolved
  rw [resolved, namedLine]
  refine List.flatMap_congr fun segment member => ?_
  cases segment with
  | literal text =>
      rfl
  | reference digits =>
      rw [isPattern.onlyName digits member]
      rfl

/-- Only a reference brings a wrap into the line. -/
theorem exists_reference
    (isPattern : IsCreatorPattern segments)
    (holds : HoldsWrap (namedLine segments name)) :
    ∃ digits, .reference digits ∈ segments := by
  by_contra noReference
  have member : '$' ∈ namedLine segments name :=
    holds.mem (by simp)
  obtain ⟨segment, isSegment, inside⟩ := List.mem_flatMap.mp member
  cases segment with
  | literal text =>
      exact noDollar_of_readable isPattern.readable text isSegment inside
  | reference digits =>
      exact noReference ⟨digits, isSegment⟩

/-- Where the second pass changes nothing in spite of a wrap, the name is one wrap. -/
theorem isNameWrap_of_same
    (isPattern : IsCreatorPattern segments)
    (someName : name ≠ [])
    (holds : HoldsWrap (namedLine segments name))
    (same :
      substituteWraps
          (fun digits _ =>
            lineMeaning (segments.flatMap Segment.written) name digits)
          (namedLine segments name) =
        namedLine segments name) :
    IsNameWrap name := by
  have noDollar := noDollar_of_readable isPattern.readable
  obtain ⟨digits, isReference⟩ := isPattern.exists_reference holds
  have someWords : segments.flatMap Segment.written ≠ [] := by
    intro isEmpty
    have vanishes := List.flatMap_eq_nil_iff.mp isEmpty _ isReference
    exact List.cons_ne_nil _ _ vanishes
  have someMeaning (digits _ : List Char) :=
    lineMeaning_ne_nil someWords someName digits
  have isName (digits : List Char)
      (endsWithBrace :
        (lineMeaning (segments.flatMap Segment.written) name
          digits).getLast? = some '\x7d') :=
    lineMeaning_eq_name isPattern.notMem_words endsWithBrace
  -- The last wrap of the line means the name, so the name ends with a brace.
  obtain ⟨lastOfLine⟩ := nonempty_lastWrap someMeaning holds
  have closed : EndsClosed name := by
    have endsWithBrace :=
      lastOfLine.getLast?_meaning (someMeaning _ lastOfLine.inner) same
    intro c isLast
    rw [(isName _ endsWithBrace).1, isLast] at endsWithBrace
    exact Option.some.inj endsWithBrace
  have nameHolds : HoldsWrap name :=
    by_contra fun noWrap =>
      not_holdsWrap_namedLine noDollar closed noWrap holds
  have nameSame :=
    eq_of_namedLine_eq isReference
      ((substituteWraps_namedLine noDollar closed).symm.trans same)
  -- The last wrap of the name means the name too, so nothing else stands in the name.
  obtain ⟨last⟩ := nonempty_lastWrap someMeaning nameHolds
  obtain ⟨meansName, isOne⟩ :=
    isName _ (last.getLast?_meaning (someMeaning _ last.inner) nameSame)
  have lengths :=
    congrArg List.length (nameSame.symm.trans last.passed)
  simp only [meansName, List.length_append] at lengths
  have noneWritten : last.written = [] :=
    List.eq_nil_of_length_eq_zero (by omega)
  have noTail : last.tail = [] :=
    List.eq_nil_of_length_eq_zero (by omega)
  refine ⟨last.digits, last.inner, last.isWrap, isOne, ?_⟩
  have shape := last.shape
  rwa [last.vanishes noneWritten, noTail, List.append_nil,
    List.nil_append] at shape

/-- The second pass leaves the line as it is under one of two conditions. -/
theorem substituteWraps_namedLine_eq_iff
    (isPattern : IsCreatorPattern segments)
    (someName : name ≠ []) :
    substituteWraps
          (fun digits _ =>
            lineMeaning (segments.flatMap Segment.written) name digits)
          (namedLine segments name) =
        namedLine segments name ↔
      ¬ HoldsWrap (namedLine segments name) ∨ IsNameWrap name := by
  constructor
  · intro same
    by_cases holds : HoldsWrap (namedLine segments name)
    · exact .inr (isPattern.isNameWrap_of_same someName holds same)
    · exact .inl holds
  · rintro (noWrap | ⟨digits, inner, isWrap, isOne, shape⟩)
    · exact substituteWraps_of_not_holdsWrap noWrap
    · have closed : EndsClosed name := by
        intro c isLast
        rw [shape, List.getLast?_cons, getLast?_writtenWrap] at isLast
        exact (Option.some.inj isLast).symm
      have read : wrapping? (writtenWrap digits inner) =
          some (digits, inner, []) :=
        wrapping?_eq_some_iff.mpr ⟨(List.append_nil _).symm, isWrap⟩
      rw [substituteWraps_namedLine
        (noDollar_of_readable isPattern.readable) closed]
      refine congrArg (namedLine segments) ?_
      conv => lhs; rw [shape]
      rw [substituteWraps_of_some read, substituteWraps_nil,
        List.append_nil, lineMeaning, isOne]
      exact shape.symm

end IsCreatorPattern

section Expansion

variable {pattern : Definition} {name : String}

/-- The definitions that the line is expanded with. -/
def lineDefinitions
    (pattern : Definition)
    (name : String) :
    Definitions :=
  .ofList [(creatorKey, pattern), ("creator", .text name)]

theorem get?_lineDefinitions
    (key : String) :
    (lineDefinitions pattern name).get? key =
      if "creator" = key then some (.text name)
      else if creatorKey = key then some pattern
      else none := by
  simp [lineDefinitions, Dictionary.ofList, Dictionary.insertAll,
    Dictionary.get?_insert]

@[simp] theorem text?_lineDefinitions_pattern :
    (lineDefinitions pattern name).text? creatorKey =
      some pattern.asText := by
  simp [Dictionary.text?, get?_lineDefinitions, creatorKey]

@[simp] theorem text?_lineDefinitions_name :
    (lineDefinitions pattern name).text? "creator" = some name := by
  simp [Dictionary.text?, get?_lineDefinitions, Definition.asText]

/-- The parameters of the line, which are the same for all words and names. -/
def lineParameters : List Parameter :=
  [.definition creatorKey, .definition "creator"]

theorem parameters?_line
    (pattern : Definition)
    (name : String) :
    parameters? (creatorKey ++ ",creator").toList
        (lineDefinitions pattern name) =
      some lineParameters := by
  have sameKeys :
      (lineDefinitions pattern name).SameKeys
        (lineDefinitions (.text "") "") := by
    intro key
    simp only [Dictionary.contains, get?_lineDefinitions]
    split
    · rfl
    · split <;> rfl
  rw [parameters?_congr sameKeys]
  decide

/-- Both passes read the same text at a reference, since no parameter is an element. -/
theorem bind_atIndex?_line
    {textOf : Parameter → Option (List Char)}
    (textOfDefinition :
      ∀ key,
        textOf (.definition key) =
          ((lineDefinitions pattern name).text? key).map String.toList)
    (digits : List Char) :
    ((Parameter.atIndex? lineParameters digits).bind textOf).getD fallback =
      lineMeaning pattern.asText.toList name.toList digits := by
  rw [Parameter.atIndex?, lineMeaning, lineParameters]
  rcases digitsValue digits with _ | _ | index
  · simp [textOfDefinition]
  · simp [textOfDefinition]
  · rfl

theorem plainMeaning_line :
    plainMeaning (lineDefinitions pattern name) lineParameters =
      lineMeaning pattern.asText.toList name.toList :=
  funext fun digits => bind_atIndex?_line (fun _ => rfl) digits

theorem wrapMeaning_line :
    wrapMeaning (lineDefinitions pattern name) lineParameters =
      fun digits _ =>
        lineMeaning pattern.asText.toList name.toList digits :=
  funext fun digits => funext fun _ =>
    bind_atIndex?_line (fun _ => rfl) digits

/-- The line is what the two passes make of the words. -/
theorem creatorLine_eq_passes
    {definitions : Definitions}
    {words creator : String}
    (translated : definitions.text? creatorKey = some words)
    (named : creator ≠ "") :
    creatorLine definitions creator =
      String.ofList
        (substituteWraps
          (fun digits _ =>
            lineMeaning words.toList (Text.escape creator).toList digits)
          (substitutePlain
            (lineMeaning words.toList (Text.escape creator).toList) none
            words.toList)) := by
  obtain ⟨pattern, found, rfl⟩ := Option.map_eq_some_iff.mp translated
  have someCreator : creator.isEmpty = false := by
    simpa using named
  have expanded :
      expandChars (creatorKey ++ ",creator").toList
          (lineDefinitions pattern (Text.escape creator)) =
        substitute (lineDefinitions pattern (Text.escape creator))
          lineParameters pattern.asText.toList := by
    rw [expandChars, parameters?_line, lineParameters]
    simp
  rw [creatorLine, someCreator, found]
  rw [substitute, plainMeaning_line, wrapMeaning_line] at expanded
  exact congrArg String.ofList expanded

end Expansion

section Escaped

variable {creator : String}

/-- Escaping brings in no dollar sign and no brace. -/
theorem mem_of_mem_escape
    {c : Char}
    (isMark : c ∈ ['$', '\x7b', '\x7d'])
    (member : c ∈ (Text.escape creator).toList) :
    c ∈ creator.toList := by
  rw [Text.escape, String.toList_ofList] at member
  obtain ⟨written, isWritten, inside⟩ := List.mem_flatMap.mp member
  have notEntity :
      ∀ entity ∈ ["&lt;", "&gt;", "&quot;"], c ∉ entity.toList := by
    simp only [List.mem_cons, List.not_mem_nil, or_false] at isMark
    rcases isMark with rfl | rfl | rfl <;> decide
  unfold Text.escapeChar at inside
  split at inside
  · exact absurd inside (notEntity _ (by simp))
  · split at inside
    · exact absurd inside (notEntity _ (by simp))
    · split at inside
      · exact absurd inside (notEntity _ (by simp))
      · rw [List.mem_singleton.mp inside]
        exact isWritten

theorem escape_ne_nil
    (named : creator ≠ "") :
    (Text.escape creator).toList ≠ [] := by
  have someLetter : ∀ c, Text.escapeChar c ≠ [] := by
    intro c
    unfold Text.escapeChar
    split
    · decide
    · split
      · decide
      · split
        · decide
        · exact List.cons_ne_nil c []
  intro isEmpty
  rw [Text.escape, String.toList_ofList, Text.escapeChars,
    List.flatMap_eq_nil_iff] at isEmpty
  cases letters : creator.toList with
  | nil =>
      exact named (String.toList_eq_nil_iff.mp letters)
  | cons c rest =>
      exact someLetter c (isEmpty c (by simp [letters]))

end Escaped

section Named

variable
  {definitions : Definitions}
  {segments : List Segment}
  {creator : String}

/-- A name that lacks a dollar sign or a brace is written literally. -/
theorem creatorLine_eq_namedLine_of_notMem
    {c : Char}
    (translated :
      definitions.text? creatorKey =
        some (String.ofList (segments.flatMap Segment.written)))
    (isPattern : IsCreatorPattern segments)
    (named : creator ≠ "")
    (isMark : c ∈ ['$', '\x7b', '\x7d'])
    (missing : c ∉ creator.toList) :
    creatorLine definitions creator =
      String.ofList (namedLine segments (Text.escape creator).toList) := by
  have noWrap :
      ¬ HoldsWrap (namedLine segments (Text.escape creator).toList) :=
    fun holds =>
      notMem_namedLine (isPattern.notMem_literal isMark)
        (mt (mem_of_mem_escape isMark) missing) (holds.mem isMark)
  rw [creatorLine_eq_passes translated named, String.toList_ofList,
    isPattern.substitutePlain_words,
    substituteWraps_of_not_holdsWrap noWrap]

/--
The line names a creator literally in two cases only.

Either no wrap stands in the line, or the name is one wrap that stands for the name
itself. Any other name with a wrap is changed by the second pass.
-/
theorem creatorLine_eq_namedLine_iff
    (translated :
      definitions.text? creatorKey =
        some (String.ofList (segments.flatMap Segment.written)))
    (isPattern : IsCreatorPattern segments)
    (named : creator ≠ "") :
    creatorLine definitions creator =
        String.ofList
          (namedLine segments (Text.escape creator).toList) ↔
      ¬ HoldsWrap (namedLine segments (Text.escape creator).toList) ∨
        IsNameWrap (Text.escape creator).toList := by
  rw [creatorLine_eq_passes translated named, String.toList_ofList,
    isPattern.substitutePlain_words, String.ofList_inj,
    isPattern.substituteWraps_namedLine_eq_iff (escape_ne_nil named)]

end Named

/-- A name with braces and a dollar sign that make up no wrap, in an English line. -/
theorem creatorLine_eq_namedLine_iff_braces :
    let definitions : Definitions :=
      .ofTexts [("ResultCreator", "by $1")]
    let segments : List Segment :=
      [.literal ['b', 'y', ' '], .reference ['1']]
    definitions.text? creatorKey =
        some (String.ofList (segments.flatMap Segment.written)) ∧
      IsCreatorPattern segments ∧
      "Ada \x7b$1\x7d" ≠ "" ∧
      creatorLine definitions "Ada \x7b$1\x7d" = "by Ada \x7b$1\x7d" := by
  intro definitions segments
  have translated :
      definitions.text? creatorKey =
        some (String.ofList (segments.flatMap Segment.written)) := by
    decide
  have isPattern : IsCreatorPattern segments :=
    { readable := by decide
      onlyName := by simp [segments]
      noBrace := by simp [segments] }
  have named : "Ada \x7b$1\x7d" ≠ "" := by
    decide
  have noWrap :
      ¬ HoldsWrap
        (namedLine segments (Text.escape "Ada \x7b$1\x7d").toList) := by
    decide
  have literal :=
    (creatorLine_eq_namedLine_iff translated isPattern named).mpr
      (.inl noWrap)
  exact
    ⟨translated, isPattern, named, literal.trans (by decide)⟩

/-- The wrap in a name stands for the whole name, which thus appears inside itself. -/
theorem exists_creatorLine_ne_namedLine :
    let definitions : Definitions :=
      .ofTexts [("ResultCreator", "by $1")]
    let segments : List Segment :=
      [.literal ['b', 'y', ' '], .reference ['1']]
    definitions.text? creatorKey =
        some (String.ofList (segments.flatMap Segment.written)) ∧
      IsCreatorPattern segments ∧
      creatorLine definitions "a$1\x7bx\x7db" =
        "by aa$1\x7bx\x7dbb" ∧
      String.ofList
          (namedLine segments (Text.escape "a$1\x7bx\x7db").toList) =
        "by a$1\x7bx\x7db" := by
  intro definitions segments
  have isPattern : IsCreatorPattern segments :=
    { readable := by decide +kernel
      onlyName := by simp [segments]
      noBrace := by simp [segments] }
  exact
    ⟨by decide +kernel, isPattern, by decide +kernel, by decide +kernel⟩

end CatalogSite.SearchPage
