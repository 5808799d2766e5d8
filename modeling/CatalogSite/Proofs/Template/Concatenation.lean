import CatalogSite.Proofs.Template.Inert
import CatalogSite.Proofs.Text.FirstSeparator
import Mathlib.Data.List.Basic

namespace CatalogSite.Template

/-!
# Joining templates

A template is read piece by piece, and written one after the other its pieces are the
template again. A cut leaves every piece alone when each brace that opens before the cut
also closes there, and when no line start before the cut can go on to a brace behind it.
-/

/-- Every brace that opens in a text has a closing brace behind it. -/
def EveryBraceCloses
    (text : List Char) : Prop :=
  ∀ behind, '\x7b' :: behind <:+ text → '\x7d' ∈ behind

/-- A text begins with tabs, or none, and then opens a brace. -/
def BeginsWithTabbedBrace
    (text : List Char) : Prop :=
  ∃ tabs behind, text = List.replicate tabs '\t' ++ '\x7b' :: behind

theorem everyBraceCloses_nil :
    EveryBraceCloses [] := by
  intro behind isSuffix
  simp at isSuffix

theorem everyBraceCloses_cons
    {c : Char}
    {rest : List Char} :
    EveryBraceCloses (c :: rest) ↔
      (c = '\x7b' → '\x7d' ∈ rest) ∧ EveryBraceCloses rest := by
  simp only [EveryBraceCloses, List.suffix_cons_iff, List.cons.injEq]
  constructor
  · intro closes
    exact
      ⟨fun opens => closes rest (.inl ⟨opens.symm, rfl⟩),
        fun behind isSuffix => closes behind (.inr isSuffix)⟩
  · rintro ⟨first, later⟩ behind (⟨opens, rfl⟩ | isSuffix)
    · exact first opens.symm
    · exact later behind isSuffix

theorem EveryBraceCloses.suffix
    {text behind : List Char}
    (closes : EveryBraceCloses text)
    (isSuffix : behind <:+ text) :
    EveryBraceCloses behind :=
  fun deeper isDeeper => closes deeper (isDeeper.trans isSuffix)

section Tabs

variable
  {tabs : Nat}
  {rest : List Char}

theorem dropWhile_tabs
    (noTab : rest.head? ≠ some '\t') :
    (List.replicate tabs '\t' ++ rest).dropWhile (· == '\t') = rest := by
  rw [List.dropWhile_append_of_pos (by simp)]
  cases rest with
  | nil =>
      rfl
  | cons c rest =>
      exact List.dropWhile_cons_of_neg (by simpa using noTab)

theorem takeWhile_tabs
    (noTab : rest.head? ≠ some '\t') :
    (List.replicate tabs '\t' ++ rest).takeWhile (· == '\t') =
      List.replicate tabs '\t' := by
  rw [List.takeWhile_append_of_pos (by simp)]
  cases rest with
  | nil =>
      simp
  | cons c rest =>
      rw [List.takeWhile_cons_of_neg (by simpa using noTab), List.append_nil]

/-- A text divides into the tabs that it begins with and the rest. -/
theorem exists_tabs
    (text : List Char) :
    ∃ tabs rest,
      text = List.replicate tabs '\t' ++ rest ∧ rest.head? ≠ some '\t' := by
  induction text with
  | nil =>
      exact ⟨0, [], rfl, by simp⟩
  | cons c rest inductionHypothesis =>
      by_cases isTab : c = '\t'
      · obtain ⟨tabs, later, rfl, noTab⟩ := inductionHypothesis
        exact ⟨tabs + 1, later, by rw [isTab]; rfl, noTab⟩
      · exact ⟨0, c :: rest, rfl, by simpa using isTab⟩

theorem beginsWithTabbedBrace_iff
    {text : List Char} :
    BeginsWithTabbedBrace text ↔
      (text.dropWhile (· == '\t')).head? = some '\x7b' := by
  constructor
  · rintro ⟨tabs, behind, rfl⟩
    rw [dropWhile_tabs (by simp)]
    rfl
  · intro opens
    obtain ⟨tabs, rest, rfl, noTab⟩ := exists_tabs text
    rw [dropWhile_tabs noTab] at opens
    obtain ⟨behind, rfl⟩ := List.head?_eq_some_iff.mp opens
    exact ⟨tabs, behind, rfl⟩

end Tabs

theorem head?_ne_of_not_beginsWithTabbedBrace
    {text : List Char}
    (noTabbedBrace : ¬ BeginsWithTabbedBrace text) :
    text.head? ≠ some '\x7b' := by
  intro opens
  obtain ⟨behind, rfl⟩ := List.head?_eq_some_iff.mp opens
  exact noTabbedBrace ⟨0, behind, rfl⟩

instance decidableEveryBraceCloses :
    (text : List Char) → Decidable (EveryBraceCloses text)
  | [] => .isTrue everyBraceCloses_nil
  | _ :: rest =>
      have := decidableEveryBraceCloses rest
      decidable_of_iff _ everyBraceCloses_cons.symm

instance
    (text : List Char) :
    Decidable (BeginsWithTabbedBrace text) :=
  decidable_of_iff _ beginsWithTabbedBrace_iff.symm

section Written

/-- How a placeholder is written in a template. -/
def Placeholder.written
    (content : Placeholder) :
    List Char :=
  (if content.newline then ['\n'] else []) ++ content.tabs ++
    '\x7b' :: (content.body ++ ['\x7d'])

/-- How a piece is written in a template. -/
def Span.written : Span → List Char
  | .literal c => [c]
  | .placeholder content => content.written

/-- A line break starts a placeholder only together with the tabs and the brace behind it. -/
theorem placeholder?_break
    (atStart : Bool)
    (rest : List Char) :
    placeholder? atStart ('\n' :: rest) = tabbed? true rest := by
  cases atStart <;> simp [placeholder?, tabbed?, bracedBody?]

theorem placeholder?_of_ne
    {c : Char}
    (noBreak : c ≠ '\n')
    (atStart : Bool)
    (rest : List Char) :
    placeholder? atStart (c :: rest) =
      (if atStart then tabbed? false (c :: rest) else none).or
        ((bracedBody? (c :: rest)).map fun (body, after) =>
          ({ newline := false, tabs := [], body }, after)) := by
  simp [placeholder?, noBreak]

/-- A body in braces ends at the first closing brace. -/
theorem bracedBody?_eq_some_iff
    {text body after : List Char} :
    bracedBody? text = some (body, after) ↔
      text = '\x7b' :: (body ++ '\x7d' :: after) ∧ '\x7d' ∉ body := by
  constructor
  · intro found
    unfold bracedBody? at found
    split at found
    · split at found
      · rename_i divided
        cases found
        obtain ⟨shape, free⟩ := Text.eq_append_of_splitFirst divided
        exact ⟨by rw [shape], free⟩
      · cases found
    · cases found
  · rintro ⟨rfl, free⟩
    simp [bracedBody?, Text.splitFirst_append free]

theorem bracedBody?_eq_none
    {text : List Char}
    (noBrace : text.head? ≠ some '\x7b') :
    bracedBody? text = none := by
  unfold bracedBody?
  split
  · exact absurd rfl noBrace
  · rfl

/-- A placeholder behind tabs, as it stands in the text. -/
theorem written_of_tabbed?
    {newline : Bool}
    {text after : List Char}
    {content : Placeholder}
    (found : tabbed? newline text = some (content, after)) :
    content.written ++ after =
        (if newline then ['\n'] else []) ++ text ∧
      '\x7d' ∉ content.body := by
  obtain ⟨⟨body, tail⟩, inside, equal⟩ := Option.map_eq_some_iff.mp found
  simp only [Prod.mk.injEq] at equal
  obtain ⟨rfl, rfl⟩ := equal
  obtain ⟨shape, free⟩ := bracedBody?_eq_some_iff.mp inside
  have divided :
      text =
        text.takeWhile (· == '\t') ++
          '\x7b' :: (body ++ '\x7d' :: tail) := by
    rw [← shape, List.takeWhile_append_dropWhile]
  refine ⟨?_, free⟩
  calc
    _ = (if newline then ['\n'] else []) ++
          (text.takeWhile (· == '\t') ++
            '\x7b' :: (body ++ '\x7d' :: tail)) := by
      simp [Placeholder.written]
    _ = _ := by
      rw [← divided]

/-- A placeholder is read from the text in which it is written. -/
theorem written_of_placeholder?
    {atStart : Bool}
    {text after : List Char}
    {content : Placeholder}
    (found : placeholder? atStart text = some (content, after)) :
    content.written ++ after = text ∧ '\x7d' ∉ content.body := by
  simp only [placeholder?, Option.orElse_eq_orElse,
    Option.orElse_eq_or, Option.or_eq_some_iff] at found
  rcases found with atFront | ⟨-, behindBreak | ⟨-, bare⟩⟩
  · cases atStart with
    | false =>
        simp at atFront
    | true =>
        exact written_of_tabbed? (by simpa using atFront)
  · split at behindBreak
    · exact written_of_tabbed? behindBreak
    · simp at behindBreak
  · obtain ⟨⟨body, tail⟩, inside, equal⟩ := Option.map_eq_some_iff.mp bare
    cases equal
    obtain ⟨shape, free⟩ := bracedBody?_eq_some_iff.mp inside
    exact ⟨by simp [Placeholder.written, shape], free⟩

/-- The pieces of a text stand in it one after the other, and nothing else does. -/
theorem flatMap_written_spansFrom
    (atStart : Bool)
    (text : List Char) :
    (spansFrom atStart text).flatMap Span.written = text := by
  fun_induction spansFrom atStart text with
  | case1 atStart text content after found _ inductionHypothesis =>
      rw [List.flatMap_cons, inductionHypothesis]
      exact (written_of_placeholder? found).1
  | case2 =>
      rfl
  | case3 atStart c rest _ inductionHypothesis =>
      rw [List.flatMap_cons, inductionHypothesis]
      rfl

end Written

section Cut

variable {first second : List Char}

theorem bracedBody?_append
    (closes : EveryBraceCloses first)
    (noBrace : second.head? ≠ some '\x7b') :
    bracedBody? (first ++ second) =
      (bracedBody? first).map fun (body, after) =>
        (body, after ++ second) := by
  cases first with
  | nil =>
      rw [List.nil_append, bracedBody?_eq_none noBrace]
      rfl
  | cons c rest =>
      by_cases opens : c = '\x7b'
      · subst opens
        obtain ⟨body, after, rfl, free⟩ :=
          List.eq_append_cons_of_mem ((everyBraceCloses_cons.mp closes).1 rfl)
        rw [bracedBody?_eq_some_iff.mpr ⟨rfl, free⟩]
        exact bracedBody?_eq_some_iff.mpr ⟨by simp, free⟩
      · have different : (c :: rest).head? ≠ some '\x7b' := by
          simpa using opens
        rw [bracedBody?_eq_none different, List.cons_append,
          bracedBody?_eq_none (by simpa using opens)]
        rfl

theorem tabbed?_append
    (closes : EveryBraceCloses first)
    (noTabbedBrace : ¬ BeginsWithTabbedBrace second)
    (newline : Bool) :
    tabbed? newline (first ++ second) =
      (tabbed? newline first).map fun (content, after) =>
        (content, after ++ second) := by
  obtain ⟨tabs, rest, rfl, noTab⟩ := exists_tabs first
  cases rest with
  | nil =>
      -- The run of tabs may go on in the second text, but no brace follows it.
      obtain ⟨more, later, rfl, laterNoTab⟩ := exists_tabs second
      have noBrace : later.head? ≠ some '\x7b' := by
        intro opens
        apply noTabbedBrace
        rwa [beginsWithTabbedBrace_iff, dropWhile_tabs laterNoTab]
      rw [List.append_nil, ← List.append_assoc, List.replicate_append_replicate,
        tabbed?, tabbed?, dropWhile_tabs laterNoTab,
        bracedBody?_eq_none noBrace, List.dropWhile_replicate]
      rfl
  | cons c rest =>
      have noBrace := head?_ne_of_not_beginsWithTabbedBrace noTabbedBrace
      have stillNoTab : ((c :: rest) ++ second).head? ≠ some '\t' :=
        noTab
      have restCloses : EveryBraceCloses (c :: rest) :=
        closes.suffix (List.suffix_append _ _)
      rw [List.append_assoc, tabbed?, tabbed?, dropWhile_tabs noTab,
        dropWhile_tabs stillNoTab, takeWhile_tabs noTab,
        takeWhile_tabs stillNoTab, bracedBody?_append restCloses noBrace,
        Option.map_map, Option.map_map]
      rfl

/-- Before the cut the same placeholders start with the second text as without it. -/
theorem placeholder?_append
    (nonempty : first ≠ [])
    (closes : EveryBraceCloses first)
    (noTabbedBrace : ¬ BeginsWithTabbedBrace second)
    (atStart : Bool) :
    placeholder? atStart (first ++ second) =
      (placeholder? atStart first).map fun (content, after) =>
        (content, after ++ second) := by
  obtain ⟨c, rest, rfl⟩ := List.exists_cons_of_ne_nil nonempty
  by_cases isBreak : c = '\n'
  · rw [isBreak, List.cons_append, placeholder?_break, placeholder?_break]
    exact tabbed?_append (everyBraceCloses_cons.mp closes).2 noTabbedBrace true
  · have bare :=
      bracedBody?_append closes
        (head?_ne_of_not_beginsWithTabbedBrace noTabbedBrace)
    have atFront := tabbed?_append closes noTabbedBrace false
    rw [List.cons_append] at bare atFront ⊢
    rw [placeholder?_of_ne isBreak, placeholder?_of_ne isBreak, bare, atFront]
    cases atStart <;>
      simp [Option.map_or, Option.map_map, Function.comp_def]

theorem spansFrom_nil
    (atStart : Bool) :
    spansFrom atStart [] = [] := by
  cases atStart <;> simp [spansFrom, placeholder?, tabbed?, bracedBody?]

theorem spansFrom_of_some
    {atStart : Bool}
    {text after : List Char}
    {content : Placeholder}
    (found : placeholder? atStart text = some (content, after)) :
    spansFrom atStart text =
      .placeholder content :: spansFrom false after := by
  rw [spansFrom]
  split
  · rename_i alsoFound
    rw [found] at alsoFound
    cases alsoFound
    rfl
  · rename_i notFound
    rw [found] at notFound
    cases notFound

theorem spansFrom_of_none
    {atStart : Bool}
    {c : Char}
    {rest : List Char}
    (notFound : placeholder? atStart (c :: rest) = none) :
    spansFrom atStart (c :: rest) = .literal c :: spansFrom false rest := by
  rw [spansFrom]
  split
  · rename_i found
    rw [notFound] at found
    cases found
  · rfl

/-- A text that begins with no tabbed brace is read alike at the start and later on. -/
theorem spansFrom_of_not_beginsWithTabbedBrace
    (noTabbedBrace : ¬ BeginsWithTabbedBrace second)
    (atStart : Bool) :
    spansFrom atStart second = spansFrom false second := by
  cases second with
  | nil =>
      rw [spansFrom_nil, spansFrom_nil]
  | cons c rest =>
      have noneAtFront : tabbed? false (c :: rest) = none := by
        rw [tabbed?, bracedBody?_eq_none]
        · rfl
        · rwa [beginsWithTabbedBrace_iff] at noTabbedBrace
      have alike :
          placeholder? atStart (c :: rest) =
            placeholder? false (c :: rest) := by
        by_cases isBreak : c = '\n'
        · rw [isBreak, placeholder?_break, placeholder?_break]
        · rw [placeholder?_of_ne isBreak, placeholder?_of_ne isBreak,
            noneAtFront]
          cases atStart <;> rfl
      cases found : placeholder? false (c :: rest) with
      | none =>
          rw [spansFrom_of_none found, spansFrom_of_none (alike.trans found)]
      | some placed =>
          rw [spansFrom_of_some found, spansFrom_of_some (alike.trans found)]

/-- The pieces of joined texts are those of the first one and then those of the second. -/
theorem spansFrom_append
    (closes : EveryBraceCloses first)
    (noTabbedBrace : ¬ BeginsWithTabbedBrace second)
    (atStart : Bool) :
    spansFrom atStart (first ++ second) =
      spansFrom atStart first ++ spansFrom false second := by
  fun_induction spansFrom atStart first with
  | case1 atStart text content after found shorter inductionHypothesis =>
      have nonempty : text ≠ [] :=
        List.ne_nil_of_length_pos (Nat.zero_lt_of_lt shorter)
      have joined :=
        placeholder?_append nonempty closes noTabbedBrace atStart
      rw [found] at joined
      have isSuffix : after <:+ text :=
        ⟨content.written, (written_of_placeholder? found).1⟩
      rw [spansFrom_of_some joined,
        inductionHypothesis (closes.suffix isSuffix)]
      rfl
  | case2 atStart _ =>
      exact spansFrom_of_not_beginsWithTabbedBrace noTabbedBrace atStart
  | case3 atStart c rest notFound inductionHypothesis =>
      have joined :=
        placeholder?_append (List.cons_ne_nil c rest) closes
          noTabbedBrace atStart
      rw [notFound, List.cons_append] at joined
      rw [List.cons_append, spansFrom_of_none joined,
        inductionHypothesis (everyBraceCloses_cons.mp closes).2]
      rfl

/-- Rendering a joined text joins the renderings. -/
theorem renderChars_append
    (closes : EveryBraceCloses first)
    (noTabbedBrace : ¬ BeginsWithTabbedBrace second)
    (definitions : Definitions) :
    renderChars (first ++ second) definitions =
      renderChars first definitions ++ renderChars second definitions := by
  rw [renderChars, spans, spansFrom_append closes noTabbedBrace,
    ← spansFrom_of_not_beginsWithTabbedBrace noTabbedBrace true,
    List.flatMap_append]
  rfl

end Cut

/-- A placeholder behind an indent. -/
def Indent.placeholder
    (indent : Indent)
    (body : List Char) :
    Placeholder where
  newline := indent.newline
  tabs := indent.tabChars
  body := body

theorem tabbed?_written
    {body : List Char}
    (free : '\x7d' ∉ body)
    (indent : Indent)
    (after : List Char) :
    tabbed? indent.newline
        (indent.tabChars ++ '\x7b' :: (body ++ '\x7d' :: after)) =
      some (indent.placeholder body, after) := by
  have noTab :
      ('\x7b' :: (body ++ '\x7d' :: after)).head? ≠ some '\t' := by
    simp
  rw [tabbed?, Indent.tabChars, dropWhile_tabs noTab, takeWhile_tabs noTab,
    bracedBody?_eq_some_iff.mpr ⟨rfl, free⟩]
  rfl

/-- An indented placeholder at the start of a template is read as it is written. -/
theorem placeholder?_written
    {body : List Char}
    (free : '\x7d' ∉ body)
    (indent : Indent)
    (after : List Char) :
    placeholder? true ((indent.placeholder body).written ++ after) =
      some (indent.placeholder body, after) := by
  have read := tabbed?_written free indent after
  obtain ⟨newline, tabs⟩ := indent
  cases newline with
  | true =>
      simpa [Placeholder.written, Indent.placeholder, placeholder?_break]
        using read
  | false =>
      have written :
          ((Indent.mk false tabs).placeholder body).written ++ after =
            (Indent.mk false tabs).tabChars ++
              '\x7b' :: (body ++ '\x7d' :: after) := by
        simp [Placeholder.written, Indent.placeholder]
      rw [written]
      simp [placeholder?, read]

namespace Span

/-- The text of a piece: a literal is copied, a placeholder gives its indented value. -/
def filled
    (definitions : Definitions) :
    Span → List Char
  | .literal c => [c]
  | .placeholder content =>
      content.indent.indented (expandChars content.body definitions)

end Span

/-- Rendering fills the pieces in place. -/
theorem renderChars_eq_filled
    (template : List Char)
    (definitions : Definitions) :
    renderChars template definitions =
      (spans template).flatMap (Span.filled definitions) := by
  refine List.flatMap_congr fun span member => ?_
  cases span with
  | literal c =>
      rfl
  | placeholder content =>
      exact
        Placeholder.format_eq_indented (onlyTabs_of_mem_spansFrom member) _

/-- A placeholder alone in a template renders to its indented value. -/
theorem renderChars_written
    {body : List Char}
    (free : '\x7d' ∉ body)
    (indent : Indent)
    (definitions : Definitions) :
    renderChars (indent.placeholder body).written definitions =
      indent.indented (expandChars body definitions) := by
  have read := placeholder?_written free indent []
  rw [List.append_nil] at read
  rw [renderChars_eq_filled, spans, spansFrom_of_some read, spansFrom_nil]
  simp [Span.filled, Indent.placeholder, Placeholder.indent, Indent.tabChars]

/-- No brace that opens in a text is closed behind it. -/
def NoBraceCloses
    (text : List Char) : Prop :=
  ∀ behind, '\x7b' :: behind <:+ text → '\x7d' ∉ behind

theorem noBraceCloses_of_notMem
    {text : List Char}
    (free : '\x7d' ∉ text) :
    NoBraceCloses text := by
  intro behind isSuffix member
  exact free (isSuffix.subset (List.mem_cons_of_mem _ member))

theorem NoBraceCloses.placeholder?_eq_none
    {text : List Char}
    (noneCloses : NoBraceCloses text)
    (atStart : Bool) :
    placeholder? atStart text = none := by
  rw [Option.eq_none_iff_forall_not_mem]
  rintro ⟨content, after⟩ found
  obtain ⟨shape, -⟩ := written_of_placeholder? found
  have isSuffix :
      '\x7b' :: (content.body ++ '\x7d' :: after) <:+ text := by
    refine ⟨(if content.newline then ['\n'] else []) ++ content.tabs, ?_⟩
    rw [← shape]
    simp [Placeholder.written]
  exact noneCloses _ isSuffix (by simp)

/-- A text without a closed brace is copied. -/
theorem renderChars_of_noBraceCloses
    {text : List Char}
    (noneCloses : NoBraceCloses text)
    (definitions : Definitions) :
    renderChars text definitions = text := by
  suffices copied :
      ∀ atStart,
        (spansFrom atStart text).flatMap (Span.render definitions) = text from
    copied true
  intro atStart
  induction text generalizing atStart with
  | nil =>
      rw [spansFrom_nil]
      rfl
  | cons c rest inductionHypothesis =>
      rw [spansFrom_of_none (noneCloses.placeholder?_eq_none atStart),
        List.flatMap_cons, inductionHypothesis]
      · rfl
      · exact fun behind isSuffix =>
          noneCloses behind (isSuffix.trans (List.suffix_cons c rest))

/--
Rendering is compositional and changes nothing but placeholders.

A template may be cut where no brace is open and no tabbed brace follows. A placeholder
alone renders to the indented value of its body. Every template is the row of its pieces,
and rendering copies the literals among them and fills the placeholders, in order; a text
in which no brace closes holds no placeholder.
-/
theorem render_compositional
    (definitions : Definitions) :
    (∀ first second : String,
        EveryBraceCloses first.toList →
        ¬ BeginsWithTabbedBrace second.toList →
        render (first ++ second) definitions =
          render first definitions ++ render second definitions) ∧
      (∀ (indent : Indent) (body : String),
        '\x7d' ∉ body.toList →
        render (String.ofList (indent.placeholder body.toList).written)
            definitions =
          String.ofList
            (indent.indented (expand body definitions).toList)) ∧
      (∀ template : String,
        String.ofList ((spans template.toList).flatMap Span.written) =
            template ∧
          render template definitions =
            String.ofList
              ((spans template.toList).flatMap
                (Span.filled definitions))) ∧
      ∀ text : String,
        NoBraceCloses text.toList → render text definitions = text := by
  refine ⟨?joined, ?alone, ?pieces, ?copied⟩
  case joined =>
    intro first second closes noTabbedBrace
    rw [render, render, render, String.toList_append,
      renderChars_append closes noTabbedBrace, String.ofList_append]
  case alone =>
    intro indent body free
    rw [render, expand, String.toList_ofList, String.toList_ofList,
      renderChars_written free]
  case pieces =>
    intro template
    refine ⟨?_, ?_⟩
    · rw [spans, flatMap_written_spansFrom, String.ofList_toList]
    · rw [render, renderChars_eq_filled]
  case copied =>
    intro text noneCloses
    rw [render, renderChars_of_noBraceCloses noneCloses,
      String.ofList_toList]

/--
A template cut behind a list in an indented block, the block alone, and a brace that
stays open.
-/
theorem render_compositional_list :
    let definitions : Definitions := .ofTexts [("items", "one\ntwo")]
    let first := "<ul>\n\t\x7bitems\x7d\n"
    let second := "</ul>\x7bitems\x7d"
    EveryBraceCloses first.toList ∧
      ¬ BeginsWithTabbedBrace second.toList ∧
      render (first ++ second) definitions =
        "<ul>\n\tone\n\ttwo\n" ++ "</ul>one\ntwo" ∧
      '\x7d' ∉ "items".toList ∧
      render "\n\t\x7bitems\x7d" definitions = "\n\tone\n\ttwo" ∧
      NoBraceCloses "\x7bitems".toList ∧
      render "\x7bitems" definitions = "\x7bitems" := by
  intro definitions first second
  obtain ⟨joined, alone, -, copied⟩ := render_compositional definitions
  have closes : EveryBraceCloses first.toList := by
    decide +kernel
  have noTabbedBrace : ¬ BeginsWithTabbedBrace second.toList := by
    decide +kernel
  have free : '\x7d' ∉ "items".toList := by
    decide +kernel
  have noneCloses : NoBraceCloses "\x7bitems".toList :=
    noBraceCloses_of_notMem (by decide +kernel)
  have firstText :
      render first definitions = "<ul>\n\tone\n\ttwo\n" := by
    decide +kernel
  have secondText : render second definitions = "</ul>one\ntwo" := by
    decide +kernel
  have block :=
    alone { newline := true, tabs := 1 } "items" free
  have blockWritten :
      String.ofList
          (Indent.placeholder { newline := true, tabs := 1 }
            "items".toList).written =
        "\n\t\x7bitems\x7d" := by
    decide +kernel
  have blockText :
      String.ofList
          (Indent.indented { newline := true, tabs := 1 }
            (expand "items" definitions).toList) =
        "\n\tone\n\ttwo" := by
    decide +kernel
  refine
    ⟨closes, noTabbedBrace, ?_, free, ?_, noneCloses,
      copied _ noneCloses⟩
  · rw [joined first second closes noTabbedBrace, firstText, secondText]
  · rw [blockWritten, blockText] at block
    exact block

end CatalogSite.Template
