import CatalogSite.Proofs.Template.Dependence

namespace CatalogSite.Template

/-!
# Substituted text is inert

Where a key is the only parameter of every placeholder that names it, the text of
that key is copied into the rendered template and never read again. The template
and the other definitions fix an outline, which is a row of texts with gaps
between them, and rendering fills each gap with the indented text of the key. What
looks like a placeholder or a reference inside this text stays as it is.
-/

/-- What stands before a gap: a line break or nothing, and a run of tabs. -/
structure Indent where
  newline : Bool
  tabs : Nat
  deriving Repr, DecidableEq

namespace Indent

/-- The tabs of an indent. -/
def tabChars
    (indent : Indent) :
    List Char :=
  List.replicate indent.tabs '\t'

/--
An indented value.

The empty value takes the indent with it. In any other value the tabs follow the
captured line break and every line break of the value.
-/
def indented
    (indent : Indent)
    (value : List Char) :
    List Char :=
  if value = [] then
    []
  else
    (if indent.newline then ['\n'] else []) ++ indent.tabChars ++
      value.flatMap fun c =>
        if c = '\n' then '\n' :: indent.tabChars else [c]

end Indent

/-- Fixed texts with gaps: the first text, then each gap with the text after it. -/
structure Outline where
  opening : List Char
  gaps : List (Indent × List Char)
  deriving Repr, DecidableEq

namespace Outline

/-- Put a value into every gap. -/
def fill
    (outline : Outline)
    (value : List Char) :
    List Char :=
  outline.opening ++
    outline.gaps.flatMap fun gap => gap.1.indented value ++ gap.2

def blank : Outline where
  opening := []
  gaps := []

/-- Put a fixed text in front. -/
def prependText
    (text : List Char)
    (outline : Outline) :
    Outline where
  opening := text ++ outline.opening
  gaps := outline.gaps

/-- Put a gap in front. -/
def prependGap
    (indent : Indent)
    (outline : Outline) :
    Outline where
  opening := []
  gaps := (indent, outline.opening) :: outline.gaps

@[simp] theorem fill_blank
    (value : List Char) :
    blank.fill value = [] :=
  rfl

@[simp] theorem fill_prependText
    (text : List Char)
    (outline : Outline)
    (value : List Char) :
    (outline.prependText text).fill value =
      text ++ outline.fill value := by
  simp [fill, prependText]

@[simp] theorem fill_prependGap
    (indent : Indent)
    (outline : Outline)
    (value : List Char) :
    (outline.prependGap indent).fill value =
      indent.indented value ++ outline.fill value := by
  simp [fill, prependGap]

end Outline

namespace Placeholder

/-- The line start that a placeholder captures. -/
def indent
    (content : Placeholder) :
    Indent where
  newline := content.newline
  tabs := content.tabs.length

/-- A placeholder captures nothing but tabs before its body. -/
def OnlyTabs
    (content : Placeholder) : Prop :=
  ∀ c ∈ content.tabs, c = '\t'

/-- A placeholder that captures only tabs formats a value as its indent says. -/
theorem format_eq_indented
    {content : Placeholder}
    (onlyTabs : content.OnlyTabs)
    (value : List Char) :
    content.format value = content.indent.indented value := by
  have tabsShape :
      content.indent.tabChars = content.tabs :=
    (List.eq_replicate_of_mem onlyTabs).symm
  rw [format, Indent.indented, tabsShape]
  by_cases empty : value = []
  · simp [empty]
  · rw [if_neg empty, if_neg (by simpa using empty)]
    rfl

end Placeholder

theorem onlyTabs_of_tabbed?
    {newline : Bool}
    {text after : List Char}
    {content : Placeholder}
    (found : tabbed? newline text = some (content, after)) :
    content.OnlyTabs := by
  obtain ⟨⟨body, tail⟩, -, equal⟩ := Option.map_eq_some_iff.mp found
  simp only [Prod.mk.injEq] at equal
  intro c member
  rw [← equal.1] at member
  have allTabs := List.all_takeWhile (p := (· == '\t')) (l := text)
  simpa using List.all_eq_true.mp allTabs c member

/-- What is read as a placeholder captures only tabs. -/
theorem onlyTabs_of_placeholder?
    {atStart : Bool}
    {text after : List Char}
    {content : Placeholder}
    (found : placeholder? atStart text = some (content, after)) :
    content.OnlyTabs := by
  simp only [placeholder?, Option.orElse_eq_orElse,
    Option.orElse_eq_or, Option.or_eq_some_iff] at found
  rcases found with atFront | ⟨-, behindBreak | ⟨-, bare⟩⟩
  · cases atStart with
    | false =>
        simp at atFront
    | true =>
        exact onlyTabs_of_tabbed? (by simpa using atFront)
  · split at behindBreak
    · exact onlyTabs_of_tabbed? behindBreak
    · simp at behindBreak
  · obtain ⟨⟨body, tail⟩, -, equal⟩ := Option.map_eq_some_iff.mp bare
    simp only [Prod.mk.injEq] at equal
    simp [Placeholder.OnlyTabs, ← equal.1]

/-- Every placeholder of a template captures only tabs. -/
theorem onlyTabs_of_mem_spansFrom
    {atStart : Bool}
    {text : List Char}
    {content : Placeholder}
    (member : .placeholder content ∈ spansFrom atStart text) :
    content.OnlyTabs := by
  fun_induction spansFrom atStart text with
  | case1 atStart text first after found _ inductionHypothesis =>
      rcases List.mem_cons.mp member with isFirst | inRest
      · cases isFirst
        exact onlyTabs_of_placeholder? found
      · exact inductionHypothesis inRest
  | case2 =>
      simp at member
  | case3 atStart c rest _ inductionHypothesis =>
      rcases List.mem_cons.mp member with isFirst | inRest
      · cases isFirst
      · exact inductionHypothesis inRest

namespace Span

/-- A placeholder that names a key has no parameter beside it. -/
def NamesAlone
    (key : String)
    (definitions : Definitions) :
    Span → Prop
  | .literal _ => True
  | .placeholder content =>
      ∀ parameters ∈ parameters? content.body definitions,
        .definition key ∈ parameters →
        parameters = [.definition key]

instance decidableNamesAlone
    (key : String)
    (definitions : Definitions)
    (span : Span) :
    Decidable (span.NamesAlone key definitions) :=
  match span with
  | .literal _ => inferInstanceAs (Decidable True)
  | .placeholder content =>
      inferInstanceAs (Decidable
        (∀ parameters ∈ parameters? content.body definitions,
          .definition key ∈ parameters →
          parameters = [.definition key]))

/-- The indent of a placeholder that consists of a key. -/
def gap?
    (key : String)
    (definitions : Definitions) :
    Span → Option Indent
  | .literal _ => none
  | .placeholder content =>
      if parameters? content.body definitions = some [.definition key] then
        some content.indent
      else
        none

end Span

/-- Every placeholder of a template that names a key has no parameter beside it. -/
def StandsAlone
    (key : String)
    (definitions : Definitions)
    (template : List Char) : Prop :=
  ∀ span ∈ spans template, span.NamesAlone key definitions

instance decidableStandsAlone
    (key : String)
    (definitions : Definitions)
    (template : List Char) :
    Decidable (StandsAlone key definitions template) :=
  inferInstanceAs (Decidable
    (∀ span ∈ spans template, span.NamesAlone key definitions))

namespace Outline

/-- The outline of some pieces: every placeholder that consists of a key is a gap. -/
def ofSpans
    (key : String)
    (definitions : Definitions) :
    List Span → Outline
  | [] => blank
  | span :: rest =>
      match span.gap? key definitions with
      | some indent =>
          (ofSpans key definitions rest).prependGap indent
      | none =>
          (ofSpans key definitions rest).prependText
            (span.render definitions)

/-- The gaps of an outline are those of its pieces, in order. -/
theorem gaps_ofSpans
    (key : String)
    (definitions : Definitions)
    (pieces : List Span) :
    (ofSpans key definitions pieces).gaps.map Prod.fst =
      pieces.filterMap (Span.gap? key definitions) := by
  induction pieces with
  | nil =>
      rfl
  | cons span rest inductionHypothesis =>
      cases gap : span.gap? key definitions with
      | none =>
          simpa [ofSpans, gap, prependText] using inductionHypothesis
      | some indent =>
          simpa [ofSpans, gap, prependGap] using inductionHypothesis

end Outline

section Filling

variable
  {key : String}
  {definitions filled : Definitions}

/--
A piece without a gap has the same text whatever the text of the key is.

The key is none of its parameters, since it would be the only one.
-/
theorem Span.render_of_gap?_none
    {span : Span}
    (sameKeys : definitions.SameKeys filled)
    (agree : definitions.AgreeOutside key filled)
    (alone : span.NamesAlone key definitions)
    (noGap : span.gap? key definitions = none) :
    span.render filled = span.render definitions := by
  cases span with
  | literal c =>
      rfl
  | placeholder content =>
      have notAlone :
          parameters? content.body definitions ≠
            some [.definition key] := by
        intro isAlone
        simp [gap?, isAlone] at noGap
      have textsAgree :
          ∀ parameters,
            parameters? content.body definitions = some parameters →
            AgreeOn parameters definitions filled := by
        intro parameters found other member
        -- Were the key among the parameters, the placeholder would be a gap.
        have different : other ≠ key := by
          intro same
          subst other
          have shape := alone parameters found member
          exact notAlone (found.trans (congrArg some shape))
        rw [Dictionary.text?, Dictionary.text?, agree other different]
      simp only [render, expandChars_congr sameKeys textsAgree]

/-- A gap becomes the indented text of the key. -/
theorem Span.render_of_gap?_some
    {content : Placeholder}
    {indent : Indent}
    {value : String}
    (sameKeys : definitions.SameKeys filled)
    (valueText : filled.text? key = some value)
    (onlyTabs : content.OnlyTabs)
    (gap :
      (Span.placeholder content).gap? key definitions = some indent) :
    (Span.placeholder content).render filled =
      indent.indented value.toList := by
  simp only [gap?] at gap
  split at gap
  · rename_i isAlone
    rw [parameters?_congr sameKeys] at isAlone
    rw [Option.some.injEq] at gap
    rw [render, expandChars_of_alone isAlone valueText,
      Placeholder.format_eq_indented onlyTabs, gap]
  · simp at gap

/-- Rendering some pieces fills their outline. -/
theorem flatMap_render_eq_fill
    {value : String}
    {pieces : List Span}
    (sameKeys : definitions.SameKeys filled)
    (agree : definitions.AgreeOutside key filled)
    (valueText : filled.text? key = some value)
    (onlyTabs :
      ∀ content, .placeholder content ∈ pieces → content.OnlyTabs)
    (alone : ∀ span ∈ pieces, span.NamesAlone key definitions) :
    pieces.flatMap (Span.render filled) =
      (Outline.ofSpans key definitions pieces).fill value.toList := by
  induction pieces with
  | nil =>
      rfl
  | cons span rest inductionHypothesis =>
      have restFilled :=
        inductionHypothesis
          (fun content member => onlyTabs content (.tail span member))
          (fun later member => alone later (.tail span member))
      rw [List.flatMap_cons, restFilled, Outline.ofSpans]
      cases gap : span.gap? key definitions with
      | none =>
          rw [Outline.fill_prependText,
            Span.render_of_gap?_none sameKeys agree
              (alone span List.mem_cons_self) gap]
      | some indent =>
          cases span with
          | literal c =>
              simp [Span.gap?] at gap
          | placeholder content =>
              rw [Outline.fill_prependGap,
                Span.render_of_gap?_some sameKeys valueText
                  (onlyTabs content List.mem_cons_self) gap]

end Filling

/--
Rendering copies the text of a key that stands alone.

One outline serves for all definitions that agree outside the key and for every
text of the key. Its gaps are the line starts captured by the placeholders that
consist of the key, in order.
-/
theorem render_insertText_eq_fill
    {key sample template : String}
    {definitions : Definitions}
    (alone :
      StandsAlone key (definitions.insertText key sample)
        template.toList) :
    ∃ outline : Outline,
      outline.gaps.map Prod.fst =
          (spans template.toList).filterMap
            (Span.gap? key (definitions.insertText key sample)) ∧
        ∀ other : Definitions,
          definitions.AgreeOutside key other →
          ∀ value : String,
            render template (other.insertText key value) =
              String.ofList (outline.fill value.toList) := by
  refine
    ⟨Outline.ofSpans key (definitions.insertText key sample)
        (spans template.toList),
      Outline.gaps_ofSpans _ _ _, ?_⟩
  intro other agree value
  have sameKeys :
      (definitions.insertText key sample).SameKeys
        (other.insertText key value) :=
    agree.sameKeys_insert (.text sample) (.text value)
  have agreeAfter :
      (definitions.insertText key sample).AgreeOutside key
        (other.insertText key value) :=
    fun _ different =>
      agree.get?_insert_eq (.text sample) (.text value) different
  have valueText :
      (other.insertText key value).text? key = some value := by
    simp [Dictionary.text?_insertText]
  have filled :=
    flatMap_render_eq_fill sameKeys agreeAfter valueText
      (fun _ member => onlyTabs_of_mem_spansFrom member) alone
  exact congrArg String.ofList filled

/--
A template in which a key stands alone twice, once indented, beside a placeholder
that puts a reference into another text.
-/
theorem render_insertText_eq_fill_list :
    let definitions : Definitions :=
      .ofTexts [("heading", "All $1"), ("items", "none")]
    let template :=
      "\x7bheading,\"of $1\"\x7d<ul>\n\t\x7bitems\x7d\n</ul>\x7bitems\x7d"
    StandsAlone "items" (definitions.insertText "items" "")
        template.toList ∧
      ∃ outline : Outline,
        outline.gaps.map Prod.fst =
            [{ newline := true, tabs := 1 },
              { newline := false, tabs := 0 }] ∧
          ∀ value : String,
            render template (definitions.insertText "items" value) =
              String.ofList (outline.fill value.toList) := by
  intro definitions template
  have alone :
      StandsAlone "items" (definitions.insertText "items" "")
        template.toList := by
    decide +kernel
  refine ⟨alone, ?_⟩
  obtain ⟨outline, gaps, filled⟩ :=
    render_insertText_eq_fill alone
  exact
    ⟨outline, gaps.trans (by decide +kernel),
      filled definitions (fun _ _ => rfl)⟩

end CatalogSite.Template
