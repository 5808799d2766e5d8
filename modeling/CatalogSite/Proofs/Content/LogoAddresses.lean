import CatalogSite.Content.SearchPage
import CatalogSite.Proofs.Content.GameMarkup
import CatalogSite.Proofs.Text.ByteSlices

namespace CatalogSite

/-!
# The logo of a game on two pages

The page of a game and a result of a search name the same file for the logo of the game,
but they do not cut its directories out of the same text. The page takes the identifier as
the catalog has it, the result takes the escaped one. Escaping moves no byte before the
first markup. So both addresses agree where the slices end before it, and where a slice
reaches it they do not.
-/

namespace Text

variable {text : List Char} {c : Char}

/-- The characters of a text before its first markup. -/
def plainStart (text : List Char) : List Char :=
  text.takeWhile (!isMarkup ·)

/-- Where a text holds no markup, it is written as it is. -/
theorem escapeChars_plainStart
    (text : List Char) :
    escapeChars (plainStart text) = plainStart text := by
  induction text with
  | nil =>
      rfl
  | cons c rest inductionHypothesis =>
      unfold plainStart
      cases marked : isMarkup c with
      | true =>
          rw [List.takeWhile_cons_of_neg (by simp [marked])]
          rfl
      | false =>
          rw [List.takeWhile_cons_of_pos (by simp [marked]), escapeChars,
            List.flatMap_cons, escapeChar_of_not_isMarkup marked]
          exact congrArg (c :: ·) inductionHypothesis

/-- A text is plain, or its first markup stands behind its plain start. -/
theorem exists_markup_of_plainStart_ne
    (marked : plainStart text ≠ text) :
    ∃ mark rest,
      isMarkup mark = true ∧ text = plainStart text ++ mark :: rest := by
  have shape : plainStart text ++ text.dropWhile (!isMarkup ·) = text :=
    List.takeWhile_append_dropWhile
  cases behind : text.dropWhile (!isMarkup ·) with
  | nil =>
      rw [behind, List.append_nil] at shape
      exact (marked shape).elim
  | cons mark rest =>
      have first := List.head?_dropWhile_not (!isMarkup ·) text
      rw [behind] at first shape
      exact ⟨mark, rest, by simpa using first, shape.symm⟩

/-- Markup is one byte, and an ampersand and another byte begin its written form. -/
theorem exists_escapeChar_of_isMarkup
    (marked : isMarkup c = true) :
    c.utf8Size = 1 ∧
      c ≠ '&' ∧
      ∃ second more,
        second.utf8Size = 1 ∧ escapeChar c = '&' :: second :: more := by
  simp only [isMarkup, Bool.or_eq_true, beq_iff_eq] at marked
  rcases marked with (rfl | rfl) | rfl
  · exact ⟨rfl, by decide, 'l', ['t', ';'], rfl, rfl⟩
  · exact ⟨rfl, by decide, 'g', ['t', ';'], rfl, rfl⟩
  · exact ⟨rfl, by decide, 'q', "uot;".toList, rfl, rfl⟩

end Text

/-! ## Directories -/

/-- The two directories in the address of a logo. -/
def logoDirectories (id : List Char) : List Char :=
  Text.byteSlice 0 2 id ++ '/' :: (Text.byteSlice 2 4 id ++ ['/'])

/-- Addresses with one base and one file name differ in their directories only. -/
theorem logoAddress_eq_iff
    {base first second file : String} :
    logoAddress base first file = logoAddress base second file ↔
      logoDirectories first.toList = logoDirectories second.toList := by
  have shape
      (id : String) :
      (logoAddress base id file).toList =
        (base.toList ++ "/Logos/".toList) ++
          (logoDirectories id.toList ++ (file.toList ++ ".png".toList)) := by
    simp [logoAddress, logoDirectories]
  rw [← String.toList_inj, shape, shape, List.append_cancel_left_eq,
    List.append_cancel_right_eq]

/--
No markup is among the bytes that name the directories.

There is none in the identifier, or the first stands behind the fourth byte. Or a character
before it lies across the second byte, so that there are no directories at all.
-/
def PlainDirectories (id : List Char) : Prop :=
  Text.plainStart id = id ∨
    4 ≤ Text.byteLength (Text.plainStart id) ∨
    Text.Spans 2 (Text.plainStart id)

instance
    (id : List Char) :
    Decidable (PlainDirectories id) :=
  inferInstanceAs (Decidable (_ ∨ _ ∨ _))

/-- Directories within the front of an identifier do not depend on what is behind it. -/
theorem logoDirectories_append
    {front : List Char}
    (within :
      4 ≤ Text.byteLength front ∨ Text.Spans 2 front)
    (first second : List Char) :
    logoDirectories (front ++ first) = logoDirectories (front ++ second) := by
  unfold logoDirectories
  rcases within with long | across
  · rw [Text.byteSlice_append_of_le (by decide) (by omega) first,
      Text.byteSlice_append_of_le (by decide) (by omega) second,
      Text.byteSlice_append_of_le (by decide) long first,
      Text.byteSlice_append_of_le (by decide) long second]
  · rw [across.byteSlice_zero_eq_nil first, across.byteSlice_zero_eq_nil second,
      across.byteSlice_eq_nil first, across.byteSlice_eq_nil second]

/-- Two characters of one byte each are a directory. -/
theorem byteSlice_two
    {first second : Char}
    (firstSize : first.utf8Size = 1)
    (secondSize : second.utf8Size = 1)
    (rest : List Char) :
    Text.byteSlice 0 2 (first :: second :: rest) = [first, second] := by
  have slice := Text.byteSlice_zero_append [first, second] rest
  simpa [Text.byteLength, firstSize, secondSize] using slice

/-- A directory that the first markup reaches shows whether it has been escaped. -/
theorem directory_ne_of_isMarkup
    {near : List Char}
    {mark : Char}
    (short : Text.byteLength near ≤ 1)
    (marked : Text.isMarkup mark = true)
    (rest others behind behindOthers : List Char) :
    Text.byteSlice 0 2 (near ++ mark :: rest) ++ '/' :: behind ≠
      Text.byteSlice 0 2 (near ++ (Text.escapeChar mark ++ others)) ++
        '/' :: behindOthers := by
  obtain ⟨markSize, notAmpersand, second, more, secondSize, written⟩ :=
    Text.exists_escapeChar_of_isMarkup marked
  intro same
  simp only [written, List.cons_append] at same
  rcases Text.eq_nil_or_singleton_of_byteLength_le_one short with
    rfl | ⟨c, size, rfl⟩
  · -- The markup or the separator begins the one, an ampersand the other.
    rw [List.nil_append, List.nil_append, byteSlice_two rfl secondSize] at same
    have front := Text.byteSlice_zero_isPrefix 2 (mark :: rest)
    rcases List.prefix_cons_iff.mp front with nothing | ⟨part, begins, -⟩
    · rw [nothing] at same
      exact absurd (List.cons.inj same).1 (by decide)
    · rw [begins] at same
      exact notAmpersand (List.cons.inj same).1
  · -- Behind one byte stands the markup in the one, an ampersand in the other.
    rw [List.singleton_append, List.singleton_append,
      byteSlice_two size markSize, byteSlice_two size rfl] at same
    exact notAmpersand (List.cons.inj (List.cons.inj same).2).1

/-- Behind a front of two bytes, the front and a slice of the rest are the directories. -/
theorem logoDirectories_append_of_two
    {front : List Char}
    (size : Text.byteLength front = 2)
    (rest : List Char) :
    logoDirectories (front ++ rest) =
      front ++ '/' :: (Text.byteSlice 0 2 rest ++ ['/']) := by
  have first := Text.byteSlice_zero_append front rest
  have second := Text.byteSlice_append front rest 2
  rw [size] at first second
  rw [logoDirectories, first, second]

/-- Markup among the first four bytes shows in the directories. -/
theorem logoDirectories_ne_of_isMarkup
    {front : List Char}
    {mark : Char}
    (reached : Text.byteLength front < 4)
    (free : ¬Text.Spans 2 front)
    (marked : Text.isMarkup mark = true)
    (rest others : List Char) :
    logoDirectories (front ++ mark :: rest) ≠
      logoDirectories (front ++ (Text.escapeChar mark ++ others)) := by
  rcases Nat.lt_or_ge (Text.byteLength front) 2 with short | long
  · exact directory_ne_of_isMarkup (Nat.le_of_lt_succ short) marked
      rest others _ _
  · obtain ⟨whole, near, rfl, size⟩ :=
      Text.exists_front_of_not_spans long free
    have short : Text.byteLength near ≤ 1 := by
      rw [Text.byteLength_append, size] at reached
      omega
    rw [List.append_assoc, List.append_assoc,
      logoDirectories_append_of_two size, logoDirectories_append_of_two size]
    intro same
    exact directory_ne_of_isMarkup short marked rest others [] []
      (List.cons.inj (List.append_cancel_left same)).2

/-- Where the first markup stands decides whether escaping changes the directories. -/
theorem logoDirectories_escapeChars_iff_of_isMarkup
    {front : List Char}
    {mark : Char}
    (written : Text.escapeChars front = front)
    (marked : Text.isMarkup mark = true)
    (rest : List Char) :
    logoDirectories (front ++ mark :: rest) =
        logoDirectories (Text.escapeChars (front ++ mark :: rest)) ↔
      4 ≤ Text.byteLength front ∨ Text.Spans 2 front := by
  rw [Text.escapeChars_append, written, Text.escapeChars, List.flatMap_cons]
  constructor
  · intro same
    rcases Nat.lt_or_ge (Text.byteLength front) 4 with reached | long
    · by_cases across : Text.Spans 2 front
      · exact .inr across
      · exact
          (logoDirectories_ne_of_isMarkup reached across marked
            rest _ same).elim
    · exact .inl long
  · intro within
    exact logoDirectories_append within _ _

/-- Escaping an identifier keeps its directories exactly when they are plain. -/
theorem logoDirectories_escapeChars_iff
    (id : List Char) :
    logoDirectories id = logoDirectories (Text.escapeChars id) ↔
      PlainDirectories id := by
  have written := Text.escapeChars_plainStart id
  by_cases plain : Text.plainStart id = id
  · rw [plain] at written
    simp [PlainDirectories, plain, written]
  · obtain ⟨mark, rest, marked, shape⟩ :=
      Text.exists_markup_of_plainStart_ne plain
    have extent :=
      logoDirectories_escapeChars_iff_of_isMarkup written marked rest
    rw [← shape] at extent
    rw [extent, PlainDirectories, or_iff_right plain]

-- A character across the second byte leaves no directories, whatever follows it.
example : PlainDirectories "日\"".toList ∧ ¬PlainDirectories "a\"b".toList := by
  decide +kernel

namespace SearchPage

/-- A result of a search takes the whole address of its logo from the escaped identifier. -/
theorem text?_resultLogo_resultDefinitions
    (imageUrl : String)
    (definitions : Definitions)
    (game : Game) :
    (resultDefinitions imageUrl definitions game).text? "resultLogo" =
      some
        (logoAddress imageUrl (Text.escape game.id) (Text.escape game.id) ++
          "?type=jpg") := by
  simp [resultDefinitions, Dictionary.text?, Dictionary.get?_overlay,
    Dictionary.ofTexts, Dictionary.ofList, Dictionary.insertAll,
    Dictionary.get?_insert, Definition.asText]

/--
The exact extent to which both pages show the same logo.

Whatever the site and the game are, both have an address for the logo. They agree, but for
the type that a result asks for, exactly when the directories are plain.
-/
theorem resultLogo_eq_viewLogo_iff
    (imageUrl : String)
    (definitions : Definitions)
    (game : Game) :
    ∃ resultLogo viewLogo,
      (resultDefinitions imageUrl definitions game).text? "resultLogo" =
          some resultLogo ∧
        (GamePage.describe imageUrl game).text? GamePage.logoKey =
          some viewLogo ∧
        (resultLogo = viewLogo ++ "?type=jpg" ↔
          PlainDirectories game.id.toList) := by
  refine
    ⟨_, _, text?_resultLogo_resultDefinitions imageUrl definitions game,
      GamePage.text?_logoKey_describe imageUrl game, ?_⟩
  rw [← logoDirectories_escapeChars_iff, String.append_left_inj,
    logoAddress_eq_iff, Text.escape, String.toList_ofList]
  exact eq_comm

/-- A result shows pieces of an entity as directories, the page of the game the mark itself. -/
theorem exists_resultLogo_ne_viewLogo :
    let game : Game := { id := "a\"b", title := "Alpha" }
    let imageUrl := Config.defaults.imageUrl
    let resultLogo :=
      (resultDefinitions imageUrl .empty game).text? "resultLogo"
    let viewLogo :=
      (GamePage.describe imageUrl game).text? GamePage.logoKey
    resultLogo =
        some (imageUrl ++ "/Logos/a&/qu/a&quot;b.png?type=jpg") ∧
      viewLogo = some (imageUrl ++ "/Logos/a\"//a&quot;b.png") ∧
      resultLogo ≠ viewLogo.map (· ++ "?type=jpg") := by
  decide +kernel

end SearchPage

end CatalogSite
