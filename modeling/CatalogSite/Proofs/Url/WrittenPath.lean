import CatalogSite.Proofs.Text.FirstSeparator
import CatalogSite.Proofs.Text.Pieces
import CatalogSite.Proofs.Url.PercentText
import CatalogSite.Proofs.Url.WebAddress

namespace CatalogSite

/-!
# Paths that are written in web addresses

A path is written in an address by encoding everything that could be taken for something
else there. Reading the address leaves such a path alone: nothing of it is encoded once
more, none of its names is taken for a dot, and nothing of it is decoded either.
-/

namespace Url

variable {encoded : Char → Bool} {text : List Char}

/--
A choice of characters to be encoded when a path is written in a web address.

Those that the standard encodes in a path are among them. So are the percent sign, which
would begin a written byte, and the backslash, which would separate names.
-/
structure WritesPaths
    (encoded : Char → Bool) : Prop where
  standard : ∀ c, encodedInPath c = true → encoded c = true
  percent : encoded '%' = true
  backslash : encoded '\\' = true
  slash : encoded '/' = false

/-- The least choice of characters that a path can be written with. -/
def encodedInName
    (c : Char) :
    Bool :=
  encodedInPath c || c == '%' || c == '\\'

theorem writesPaths_encodedInName :
    WritesPaths encodedInName where
  standard := by
    intro c special
    simp [encodedInName, special]
  percent := by
    decide
  backslash := by
    decide
  slash := by
    decide

/-! ## Dots -/

/-- Only a name itself is encoded to a text that is read as this name. -/
theorem WritesPaths.any_eq_false
    {forms : List String}
    {name : List Char}
    (writes : WritesPaths encoded)
    (decodes :
      ∀ form ∈ forms,
        percentDecode (Text.utf8 form.toList) = Text.utf8 name)
    (notName : text ≠ name) :
    forms.any (·.toList = percentEncode encoded text) = false := by
  rw [List.any_eq_false]
  intro form member same
  have isForm : form.toList = percentEncode encoded text :=
    of_decide_eq_true same
  have decoded := decodes form member
  rw [isForm, percentDecode_percentEncode writes.percent] at decoded
  exact notName (Text.utf8_injective decoded)

theorem WritesPaths.isSingleDot_eq_false
    (writes : WritesPaths encoded)
    (notDot : text ≠ ".".toList) :
    isSingleDot (percentEncode encoded text) = false :=
  writes.any_eq_false (by decide) notDot

theorem WritesPaths.isDoubleDot_eq_false
    (writes : WritesPaths encoded)
    (notDots : text ≠ "..".toList) :
    isDoubleDot (percentEncode encoded text) = false :=
  writes.any_eq_false (by decide) notDots

/-! ## Names -/

/-- Segments that are not dots are followed one after the other. -/
theorem walkSegments_web
    {segments : List (List Char)}
    (names : List (List Char))
    (noDots :
      ∀ segment ∈ segments,
        isSingleDot segment = false ∧ isDoubleDot segment = false) :
    walkSegments .web names segments =
      names ++ segments.map (percentEncode encodedInPath) := by
  induction segments generalizing names with
  | nil =>
      simp [walkSegments]
  | cons segment rest inductionHypothesis =>
      obtain ⟨notDot, notDots⟩ := noDots segment List.mem_cons_self
      have restNoDots :=
        fun other member => noDots other (.tail segment member)
      have added :
          segmentNames .web names segment =
            [percentEncode encodedInPath segment] := by
        rfl
      cases rest with
      | nil =>
          simp [walkSegments, notDot, notDots, added]
      | cons second others =>
          rw [walkSegments, notDot, notDots, if_neg Bool.false_ne_true,
            if_neg Bool.false_ne_true, inductionHypothesis _ restNoDots,
            added]
          · simp
          · intro isLast
            cases isLast

/-- A text that is encoded for a path is not encoded once more. -/
theorem WritesPaths.percentEncode_percentEncode
    (writes : WritesPaths encoded)
    (text : List Char) :
    percentEncode encodedInPath (percentEncode encoded text) =
      percentEncode encoded text := by
  have noMark : percentMarks.any encodedInPath = false := by
    decide
  apply percentEncode_eq_self
  intro c member
  rcases mark_or_plain_of_mem_percentEncode member with
    mark | ⟨-, plain⟩
  · exact eq_false_of_mem_percentMarks noMark mark
  · rw [Bool.eq_false_iff]
    intro isEncoded
    rw [writes.standard c isEncoded] at plain
    cases plain

/-- Names are separated by the slashes of a path and by nothing else in it. -/
theorem WritesPaths.splitOnP_isSlash
    (writes : WritesPaths encoded)
    (text : List Char) :
    (percentEncode encoded text).splitOnP SchemeKind.web.isSlash =
      (text.splitOnP (· == '/')).map (percentEncode encoded) := by
  have noMark : percentMarks.any SchemeKind.web.isSlash = false := by
    decide
  have sameSeparator :
      (fun c => SchemeKind.web.isSlash c && !encoded c) =
        (· == '/') := by
    funext c
    by_cases isSlash : c = '/'
    · simp [isSlash, SchemeKind.isSlash, writes.slash]
    · have notSlash : (c == '/') = false :=
        beq_false_of_ne isSlash
      by_cases isBackslash : c = '\\'
      · simp [isBackslash, writes.backslash]
      · have notBackslash : (c == '\\') = false :=
          beq_false_of_ne isBackslash
        simp [SchemeKind.isSlash, notSlash, notBackslash]
  rw [splitOnP_percentEncode noMark, sameSeparator]

theorem splitOnP_percentEncode_slash
    (leavesSlashes : encoded '/' = false)
    (text : List Char) :
    (percentEncode encoded text).splitOnP (· == '/') =
      (text.splitOnP (· == '/')).map (percentEncode encoded) := by
  have noMark : percentMarks.any (· == '/') = false := by
    decide
  have sameSeparator :
      (fun c => c == '/' && !encoded c) = (· == '/') := by
    funext c
    by_cases isSlash : c = '/'
    · simp [isSlash, leavesSlashes]
    · simp [isSlash]
  rw [splitOnP_percentEncode noMark, sameSeparator]

/-! ## Tails -/

/-- A path without marks goes up to the tail of an address. -/
theorem splitTail_append
    {path : List Char}
    (noQuery : '?' ∉ path)
    (noFragment : '#' ∉ path)
    (tail : List Char) :
    (splitTail (path ++ tail)).1 = path ++ (splitTail tail).1 := by
  simp only [splitTail]
  rw [Text.splitFirst_append_of_notMem noFragment]
  dsimp only
  rw [Text.splitFirst_append_of_notMem noQuery]

theorem splitTail_query
    (rest : List Char) :
    (splitTail ('?' :: rest)).1 = [] := by
  simp [splitTail, Text.splitFirst]

theorem splitTail_fragment
    (rest : List Char) :
    (splitTail ('#' :: rest)).1 = [] := by
  simp [splitTail, Text.splitFirst]

/-- The path of an address begins as the address does, if it is not empty. -/
theorem head?_splitTail
    {text : List Char}
    {c : Char}
    (isFirst : (splitTail text).1.head? = some c) :
    text.head? = some c := by
  cases text with
  | nil =>
      cases isFirst
  | cons first rest =>
      by_cases isQuery : first = '?'
      · rw [isQuery, splitTail_query] at isFirst
        cases isFirst
      by_cases isFragment : first = '#'
      · rw [isFragment, splitTail_fragment] at isFirst
        cases isFirst
      have written :=
        splitTail_append
          (mt List.mem_singleton.mp (Ne.symm isQuery))
          (mt List.mem_singleton.mp (Ne.symm isFragment)) rest
      rw [List.singleton_append] at written
      rw [written] at isFirst
      exact isFirst

/-! ## Addresses -/

/-- A written path holds no control characters and no blanks. -/
theorem WritesPaths.visible
    (writes : WritesPaths encoded)
    (text : List Char) :
    ∀ c ∈ '/' :: percentEncode encoded text, 0x20 < c.toNat := by
  have noMark :
      percentMarks.any (fun c => c.toNat ≤ 0x20) = false := by
    decide
  intro c member
  rcases List.mem_cons.mp member with rfl | inPath
  · decide
  · rcases mark_or_plain_of_mem_percentEncode inPath with
      mark | ⟨-, plain⟩
    · simpa using eq_false_of_mem_percentMarks noMark mark
    · by_contra small
      have special : encodedInPath c = true := by
        rcases Nat.lt_or_eq_of_le (Nat.le_of_not_lt small) with
          control | blank
        · simp [encodedInPath, encodedInFragment, isControl, control]
        · have isBlank : c = ' ' :=
            Char.toNat_inj.mp blank
          rw [isBlank]
          decide
      rw [writes.standard c special] at plain
      cases plain

/-- Nothing in a written path ends the path of an address. -/
theorem WritesPaths.splitTail_eq
    (writes : WritesPaths encoded)
    (text : List Char) :
    splitTail ('/' :: percentEncode encoded text) =
      ('/' :: percentEncode encoded text, none, none) := by
  have absent
      {c : Char}
      (notSlash : c ≠ '/')
      (notMark : c ∉ percentMarks)
      (special : encodedInPath c = true) :
      c ∉ '/' :: percentEncode encoded text := by
    rw [List.mem_cons, not_or]
    refine ⟨notSlash, fun member => ?_⟩
    rcases mark_or_plain_of_mem_percentEncode member with
      mark | ⟨-, plain⟩
    · exact notMark mark
    · rw [writes.standard c special] at plain
      cases plain
  have noFragment : '#' ∉ '/' :: percentEncode encoded text :=
    absent (by decide) (by decide) (by decide)
  have noQuery : '?' ∉ '/' :: percentEncode encoded text :=
    absent (by decide) (by decide) (by decide)
  rw [splitTail, Text.splitFirst_of_notMem noFragment]
  dsimp only
  rw [Text.splitFirst_of_notMem noQuery]

/-- What is read from a written path is the path as it is written. -/
theorem WritesPaths.resourceOf_eq
    (writes : WritesPaths encoded)
    (noDots :
      ∀ name ∈ text.splitOnP (· == '/'),
        name ≠ ".".toList ∧ name ≠ "..".toList) :
    (resourceOf ('/' :: percentEncode encoded text)).1.chars =
      '/' :: percentEncode encoded text := by
  have writtenNoDots :
      ∀ segment ∈ (text.splitOnP (· == '/')).map (percentEncode encoded),
        isSingleDot segment = false ∧ isDoubleDot segment = false := by
    intro segment member
    obtain ⟨name, isName, rfl⟩ := List.mem_map.mp member
    obtain ⟨notDot, notDots⟩ := noDots name isName
    exact
      ⟨writes.isSingleDot_eq_false notDot,
        writes.isDoubleDot_eq_false notDots⟩
  have keepsNames :
      (percentEncode encodedInPath ∘ percentEncode encoded) =
        percentEncode encoded :=
    funext writes.percentEncode_percentEncode
  have isPath :
      (resourceOf ('/' :: percentEncode encoded text)).1 =
        .segments (pathNames .web [] (percentEncode encoded text)) := by
    rw [resourceOf, writes.splitTail_eq]
    rfl
  rw [isPath, pathNames, writes.splitOnP_isSlash,
    walkSegments_web [] writtenNoDots, List.nil_append, List.map_map,
    keepsNames, ← splitOnP_percentEncode_slash writes.slash]
  exact Text.flatMap_splitOnP '/' (percentEncode encoded text)

end Url

end CatalogSite
