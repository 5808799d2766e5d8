import CatalogSite.Proofs.Template.Meaning
import CatalogSite.Proofs.Template.SecondPass

namespace CatalogSite.Template

/-!
# References to elements

A slot accepts an element on several lines, and a plain reference writes the opening tag
of an element only if it stands on one line. So a reference shows the element that was
read exactly when no line break stands in it, and the fallback otherwise. What it shows
stays as it is in the second pass, unless a wrap around it or in it is still to come.
-/

/-- A plain reference stands in a base text. -/
structure RefersBetween
    (base before digits after : List Char) : Prop where
  written : base = before ++ '$' :: (digits ++ after)
  nonempty : digits ≠ []
  isDigit : ∀ c ∈ digits, c.isDigit = true
  apart : Apart after

/-- The text ends within the braces of a wrap. -/
def LeavesWrapOpen
    (text : List Char) : Prop :=
  ∃ digits inner,
    IsWrap digits inner ∧ '$' :: (digits ++ '\x7b' :: inner) <:+ text

/-- The head of a wrap stands somewhere in a text. -/
def OpensWrap
    (text : List Char) : Prop :=
  ∃ digits,
    digits ≠ [] ∧ (∀ c ∈ digits, c.isDigit = true) ∧
      '$' :: (digits ++ ['\x7b']) <:+: text

section FirstPass

variable {meaning : List Char → List Char}

theorem referenceText_dollar
    (digits : List Char) :
    referenceText meaning digits (some '$') =
      referenceText meaning digits none := by
  simp [referenceText]

/-- A dollar sign ends whatever reference has begun before it. -/
theorem substitutePlain_append_dollar
    (pending : Option (List Char))
    (before after : List Char) :
    substitutePlain meaning pending (before ++ '$' :: after) =
      substitutePlain meaning pending before ++
        substitutePlain meaning (some []) after := by
  induction before generalizing pending with
  | nil =>
      cases pending with
      | none =>
          rfl
      | some digits =>
          have noDigit : ('$').isDigit = false := by
            decide
          simp [substitutePlain, noDigit, referenceText_dollar]
  | cons c rest inductionHypothesis =>
      cases pending with
      | none =>
          rw [List.cons_append, substitutePlain, substitutePlain,
            inductionHypothesis, inductionHypothesis]
          split <;> rfl
      | some digits =>
          rw [List.cons_append, substitutePlain, substitutePlain,
            inductionHypothesis, inductionHypothesis,
            inductionHypothesis]
          split
          · rfl
          · split <;> simp

/-- The first pass replaces a reference, whatever stands around it. -/
theorem RefersBetween.substitutePlain_eq
    {base before digits after : List Char}
    (refers : RefersBetween base before digits after) :
    substitutePlain meaning none base =
      substitutePlain meaning none before ++
        (meaning digits ++ substitutePlain meaning none after) := by
  have replaced :
      substitutePlain meaning none ('$' :: (digits ++ after)) =
        meaning digits ++ substitutePlain meaning none after :=
    substitutePlain_reference refers.nonempty refers.isDigit refers.apart
  rw [substitutePlain, if_pos rfl] at replaced
  rw [refers.written, substitutePlain_append_dollar, replaced]

end FirstPass

section SecondPass

variable {front text after : List Char}

/-- Behind the border between two texts, nothing can begin with a digit or a brace. -/
theorem Apart.not_prefix_cons
    {c : Char}
    {rest : List Char}
    (apart : Apart after)
    (isMark : c.isDigit = true ∨ c = '\x7b') :
    ¬ c :: rest <+: after := by
  rintro ⟨later, rfl⟩
  obtain ⟨noDigit, noBrace⟩ := apart c rfl
  rcases isMark with isDigit | isBrace
  · rw [noDigit] at isDigit
    cases isDigit
  · exact noBrace isBrace

/-- A wrap that is not complete at the end of a text has only its end missing. -/
theorem leavesWrapOpen_of_unfinished
    {digits inner inside back : List Char}
    (isWrap : IsWrap digits inner)
    (shape : inner ++ ['\x7d'] = inside ++ back)
    (unfinished : back ≠ [])
    (isSuffix : '$' :: (digits ++ '\x7b' :: inside) <:+ front) :
    LeavesWrapOpen front := by
  have isInner : inner = inside ++ back.dropLast := by
    have shorter := congrArg List.dropLast shape
    rwa [List.dropLast_concat,
      List.dropLast_append_of_ne_nil unfinished] at shorter
  have stays : StaysInBraces inside := by
    intro c member
    apply isWrap.stays
    rw [isInner]
    exact List.mem_append_left _ member
  have isOpen : IsWrap digits inside :=
    { nonempty := isWrap.nonempty
      isDigit := isWrap.isDigit
      stays }
  exact ⟨digits, inside, isOpen, isSuffix⟩

/-- A text that leaves no wrap open is passed before whatever completes none. -/
theorem noWrapAcross_of_not_leavesWrapOpen
    (settled : ¬ LeavesWrapOpen front)
    (apart : Apart after) :
    NoWrapAcross front after := by
  intro digits inner atEnd back isWrap shape isSuffix isPrefix
  cases atEnd with
  | nil =>
      exact .inl rfl
  | cons dollar begun =>
      right
      obtain ⟨rfl, wrapShape⟩ := List.cons.inj shape
      -- The border lies behind the digits, or among them.
      rcases List.append_eq_append_iff.mp wrapShape with
        ⟨opened, begunShape, restShape⟩ | ⟨missing, digitsShape, backShape⟩
      · cases opened with
        | nil =>
            subst restShape
            exact absurd isPrefix (apart.not_prefix_cons (.inr rfl))
        | cons brace inside =>
            have isBrace := (List.cons.inj restShape).1
            subst isBrace
            have insideShape : inner ++ ['\x7d'] = inside ++ back :=
              (List.cons.inj restShape).2
            by_contra unfinished
            exact
              settled
                (leavesWrapOpen_of_unfinished isWrap insideShape unfinished
                  (begunShape ▸ isSuffix))
      · cases missing with
        | nil =>
            subst backShape
            exact absurd isPrefix (apart.not_prefix_cons (.inr rfl))
        | cons digit others =>
            subst backShape
            have isDigit : digit.isDigit = true := by
              apply isWrap.isDigit
              rw [digitsShape]
              exact List.mem_append_right _ List.mem_cons_self
            exact absurd isPrefix (apart.not_prefix_cons (.inl isDigit))

/-- Where no wrap is opened before a bracket, none is read there. -/
theorem wrapping?_eq_none_of_not_opensWrap
    (opensNone : ¬ OpensWrap ('$' :: text))
    (after : List Char) :
    wrapping? (text ++ '>' :: after) = none := by
  cases found : wrapping? (text ++ '>' :: after) with
  | none =>
      rfl
  | some read =>
      obtain ⟨digits, inner, rest⟩ := read
      obtain ⟨shape, isWrap⟩ := wrapping?_eq_some_iff.mp found
      rw [writtenWrap, List.append_assoc, List.cons_append] at shape
      rcases List.append_eq_append_iff.mp shape with
        ⟨missing, digitsShape, bracketShape⟩ | ⟨opened, textShape, braceShape⟩
      · -- The bracket would be a digit or the opening brace.
        cases missing with
        | nil =>
            exact absurd (List.cons.inj bracketShape).1 (by decide)
        | cons digit others =>
            have isBracket := (List.cons.inj bracketShape).1
            have isDigit : ('>').isDigit = true := by
              apply isWrap.isDigit
              rw [digitsShape, isBracket]
              exact List.mem_append_right _ List.mem_cons_self
            exact absurd isDigit (by decide)
      · cases opened with
        | nil =>
            exact absurd (List.cons.inj braceShape).1 (by decide)
        | cons brace inside =>
            have isBrace := (List.cons.inj braceShape).1
            refine
              absurd ⟨digits, isWrap.nonempty, isWrap.isDigit, ?_⟩
                opensNone
            refine List.IsPrefix.isInfix ⟨inside, ?_⟩
            simp [textShape, ← isBrace]

/-- An element that opens no wrap keeps its tag in the second pass. -/
theorem substituteWraps_tag
    {meaning : List Char → List Char → List Char}
    {content : List Char}
    (opensNone : ¬ OpensWrap content)
    (after : List Char) :
    substituteWraps meaning (content ++ '>' :: after) =
      content ++ '>' :: substituteWraps meaning after := by
  induction content with
  | nil =>
      exact substituteWraps_cons_of_ne (by decide) after
  | cons c rest inductionHypothesis =>
      have restOpensNone : ¬ OpensWrap rest := by
        rintro ⟨digits, nonempty, isDigit, isInfix⟩
        exact
          opensNone ⟨digits, nonempty, isDigit, List.infix_cons isInfix⟩
      have restKept := inductionHypothesis restOpensNone
      rw [List.cons_append, List.cons_append]
      by_cases isDollar : c = '$'
      · subst isDollar
        rw [substituteWraps_of_none
          (wrapping?_eq_none_of_not_opensWrap opensNone after), restKept]
      · rw [substituteWraps_cons_of_ne isDollar, restKept]

end SecondPass

section Elements

variable {definitions : Definitions}

/-- An element that was read shows its opening tag, unless a line break stands in it. -/
theorem plainMeaning_element
    {body : List Char}
    {parameters : List Parameter}
    {digits : List Char}
    {content : String}
    (read : parameters? body definitions = some parameters)
    (isElement : parameters[digitsValue digits]? = some (.element content))
    (nonempty : content ≠ "") :
    plainMeaning definitions parameters digits =
      if '\n' ∈ content.toList then fallback
      else '<' :: (content.toList ++ ['>']) := by
  obtain ⟨c, rest, shape⟩ :=
    List.exists_cons_of_ne_nil
      (fun nothing => nonempty (String.toList_eq_nil_iff.mp nothing))
  have ink : Text.isBlank c = false :=
    (slots_of_parameters? read).head_of_element
      (List.mem_of_getElem? isElement) (by rw [shape]; rfl)
  have meaning :
      plainMeaning definitions parameters digits =
        (openingTag? content.toList).getD fallback := by
    simp [plainMeaning, Parameter.atIndex?, isElement,
      Parameter.plainText?]
  rw [meaning, openingTag?]
  split
  · rename_i isBroken
    simp [tagName?, shape, shape ▸ isBroken]
  · rename_i noBreak
    rw [tagName?_of_named ⟨c, rest, shape, ink⟩ noBreak]
    rfl

/-- What a reference to an element shows is passed where no wrap is around it or in it. -/
theorem substituteWraps_around_element
    {meaning : List Char → List Char → List Char}
    {front content shown : List Char}
    (isShown :
      shown =
        if '\n' ∈ content then fallback else '<' :: (content ++ ['>']))
    (settled : ¬ LeavesWrapOpen front)
    (opensNone : ¬ OpensWrap content)
    (after : List Char) :
    substituteWraps meaning (front ++ (shown ++ after)) =
      substituteWraps meaning front ++
        (shown ++ substituteWraps meaning after) := by
  have keeps :
      Apart (shown ++ after) ∧
        substituteWraps meaning (shown ++ after) =
          shown ++ substituteWraps meaning after := by
    split at isShown
    · subst isShown
      refine ⟨?_, substituteWraps_append dollar_notMem_fallback after⟩
      rintro c ⟨⟩
      decide
    · subst isShown
      have tagKept :
          substituteWraps meaning (content ++ '>' :: after) =
            content ++ '>' :: substituteWraps meaning after :=
        substituteWraps_tag opensNone after
      constructor
      · rintro c ⟨⟩
        decide
      · rw [List.cons_append, List.append_assoc, List.singleton_append,
          substituteWraps_cons_of_ne (by decide), tagKept,
          List.cons_append, List.append_assoc, List.singleton_append]
  obtain ⟨apart, kept⟩ := keeps
  rw [substituteWraps_append_of_noWrapAcross
    (noWrapAcross_of_not_leavesWrapOpen settled apart), kept]

/-- A placeholder that refers to one of its parameters goes through both passes. -/
theorem expand_of_reference
    {body key base content : String}
    {others : List Parameter}
    {position : Nat}
    (read :
      parameters? body.toList definitions =
        some (.definition key :: others))
    (isElement :
      (.definition key :: others)[position]? = some (.element content))
    (isBase : definitions.text? key = some base) :
    expand body definitions =
      String.ofList
        (substitute definitions (.definition key :: others)
          base.toList) := by
  cases others with
  | nil =>
      cases position <;> simp at isElement
  | cons next later =>
      simp only [expand, expandChars, read, isBase]

/--
A plain reference shows an element exactly when no line break stands in it.

The element was read from a slot, at the position that the reference names, and may hold
anything else: blanks, quotes, further tags. With a line break the reference shows the
fallback. This is so in the first pass at every plain reference of every base text. In
the second pass both stay as they are, unless the reference stands in the braces of a
wrap or the element opens a wrap itself.
-/
theorem expand_element_reference
    {body key base content : String}
    {others : List Parameter}
    {before digits after : List Char}
    (read :
      parameters? body.toList definitions =
        some (.definition key :: others))
    (isElement :
      (.definition key :: others)[digitsValue digits]? =
        some (.element content))
    (nonempty : content ≠ "")
    (isBase : definitions.text? key = some base)
    (refers : RefersBetween base.toList before digits after) :
    let firstPass :=
      substitutePlain
        (plainMeaning definitions (.definition key :: others)) none
    let secondPass :=
      substituteWraps
        (wrapMeaning definitions (.definition key :: others))
    ∃ shown,
      (shown = '<' :: (content.toList ++ ['>']) ↔
        '\n' ∉ content.toList) ∧
      ('\n' ∈ content.toList → shown = fallback) ∧
      firstPass base.toList =
        firstPass before ++ (shown ++ firstPass after) ∧
      (¬ LeavesWrapOpen (firstPass before) →
        ¬ OpensWrap content.toList →
          expand body definitions =
            String.ofList
              (secondPass (firstPass before) ++
                (shown ++ secondPass (firstPass after)))) := by
  intro firstPass secondPass
  let shown := plainMeaning definitions (.definition key :: others) digits
  have isShown := plainMeaning_element read isElement nonempty
  have replaced :
      firstPass base.toList =
        firstPass before ++ (shown ++ firstPass after) :=
    refers.substitutePlain_eq
  refine ⟨shown, ?_, ?_, replaced, ?_⟩
  · constructor
    · intro isTag isBroken
      have isFallback : shown = fallback :=
        isShown.trans (if_pos isBroken)
      rw [isFallback] at isTag
      exact absurd (List.cons.inj isTag).1 (by decide)
    · intro noBreak
      exact isShown.trans (if_neg noBreak)
  · intro isBroken
    exact isShown.trans (if_pos isBroken)
  · intro settled opensNone
    rw [expand_of_reference read isElement isBase]
    congr 1
    calc
      substitute definitions (.definition key :: others) base.toList
          = secondPass (firstPass base.toList) :=
        rfl
      _ = secondPass (firstPass before ++ (shown ++ firstPass after)) := by
        rw [replaced]
      _ = _ :=
        substituteWraps_around_element isShown settled opensNone _

/-- Blanks and quotes in an element are shown, in front of a word and of a wrap. -/
theorem expand_element_reference_link :
    let definitions : Definitions :=
      .ofTexts [("line", "$1here $2\x7btoo\x7d")]
    let body := "line,<a\thref=\"/\">,<b>"
    let parameters : List Parameter :=
      [.definition "line", .element "a\thref=\"/\"", .element "b"]
    parameters? body.toList definitions = some parameters ∧
      parameters[digitsValue ['1']]? =
        some (.element "a\thref=\"/\"") ∧
      ("a\thref=\"/\"" : String) ≠ "" ∧
      definitions.text? "line" = some "$1here $2\x7btoo\x7d" ∧
      RefersBetween "$1here $2\x7btoo\x7d".toList [] ['1']
        "here $2\x7btoo\x7d".toList ∧
      expand body definitions =
        "<a\thref=\"/\">here <b>too</b>" := by
  intro definitions body parameters
  have read : parameters? body.toList definitions = some parameters := by
    decide +kernel
  have isElement :
      parameters[digitsValue ['1']]? =
        some (.element "a\thref=\"/\"") := by
    decide +kernel
  have refers :
      RefersBetween "$1here $2\x7btoo\x7d".toList [] ['1']
        "here $2\x7btoo\x7d".toList :=
    { written := by decide
      nonempty := by decide
      isDigit := List.forall_mem_singleton.mpr (by decide)
      apart := by decide }
  have settled : ¬ LeavesWrapOpen [] := by
    rintro ⟨digits, inner, -, isSuffix⟩
    simp at isSuffix
  have opensNone : ¬ OpensWrap "a\thref=\"/\"".toList := by
    rintro ⟨digits, -, -, isInfix⟩
    exact absurd (isInfix.subset List.mem_cons_self) (by decide)
  obtain ⟨shown, isTag, -, -, expands⟩ :=
    expand_element_reference read isElement (by decide) rfl refers
  refine
    ⟨read, isElement, by decide, rfl, refers,
      (expands settled opensNone).trans ?_⟩
  rw [isTag.mpr (by decide)]
  decide +kernel

/-- An element with its attributes on two lines is accepted, and shown as nothing. -/
theorem exists_element_shown_as_fallback :
    ∃ (definitions : Definitions) (body content : String),
      parameters? body.toList definitions =
          some [.definition "line", .element content] ∧
        content ≠ "" ∧
        definitions.text? "line" = some "$1" ∧
        expand body definitions = "null" ∧
        expand body definitions ≠ "<" ++ content ++ ">" :=
  ⟨.ofTexts [("line", "$1")], "line,<a\nhref>", "a\nhref",
    by decide +kernel, by decide, rfl, by decide +kernel,
    by decide +kernel⟩

end Elements

end CatalogSite.Template
