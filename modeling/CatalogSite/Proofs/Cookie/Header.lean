import CatalogSite.Cookie
import CatalogSite.Proofs.Text.FirstSeparator
import CatalogSite.Proofs.Text.Trim

namespace CatalogSite.Cookie

/-!
# What a cookie header remembers

A pair is written without any escaping, so it can be read back only if its value
holds no semicolon and has no blanks at its ends. These are the only conditions:
whatever else a header holds, before or behind the pair, does not get in the way,
as long as no earlier piece has the same name.
-/

variable {header : String} {name value : List Char}

/-- A piece of a header that has a name, whatever its value is. -/
def IsNamed
    (name piece : List Char) : Prop :=
  ∃ before after,
    piece = before ++ '=' :: after ∧
      '=' ∉ before ∧
        Text.trim before = name

theorem isNamed_iff
    {piece : List Char} :
    IsNamed name piece ↔
      (Text.splitFirst '=' piece).2.isSome = true ∧
        Text.trim (Text.splitFirst '=' piece).1 = name := by
  constructor
  · rintro ⟨before, after, rfl, undivided, trimmed⟩
    rw [Text.splitFirst_append undivided after]
    exact ⟨rfl, trimmed⟩
  · rintro ⟨divides, trimmed⟩
    rcases divided : Text.splitFirst '=' piece with ⟨before, _ | after⟩
    · rw [divided] at divides
      cases divides
    · rw [divided] at trimmed
      obtain ⟨whole, undivided⟩ := Text.eq_append_of_splitFirst divided
      exact ⟨before, after, whole, undivided, trimmed⟩

instance
    (name piece : List Char) :
    Decidable (IsNamed name piece) :=
  decidable_of_iff _ isNamed_iff.symm

/-- A name that is read as it is written. -/
structure PlainName
    (name : List Char) : Prop where
  nonempty : name ≠ []
  undivided : '=' ∉ name
  unseparated : ';' ∉ name
  bare : Text.Bare Text.isBlank name

/-- A value that is read as it is written. -/
structure PlainValue
    (value : List Char) : Prop where
  unseparated : ';' ∉ value
  bare : Text.Bare Text.isBlank value

/--
A header with a pair among other pieces, and possibly blanks around the pair. No
piece before it has the same name; those behind it may have any.
-/
structure Holds
    (header : String)
    (name value : List Char)
    (before after : List (List Char))
    (left right : List Char) : Prop where
  text :
    header.toList =
      [';'].intercalate
        (before ++ (left ++ (name ++ '=' :: value) ++ right) :: after)
  leftBlank : ∀ c ∈ left, Text.isBlank c = true
  rightBlank : ∀ c ∈ right, Text.isBlank c = true
  separate : ∀ piece ∈ before ++ after, ';' ∉ piece
  unnamed : ∀ piece ∈ before, ¬ IsNamed name piece

theorem bare_pair
    (nameBare : Text.Bare Text.isBlank name)
    (valueBare : Text.Bare Text.isBlank value) :
    Text.Bare Text.isBlank (name ++ '=' :: value) where
  head := by
    intro c isHead
    cases name with
    | nil =>
        cases isHead
        rfl
    | cons first rest =>
        exact nameBare.head c isHead
  last := by
    intro c isLast
    rw [List.getLast?_append, List.getLast?_cons] at isLast
    cases ending : value.getLast? with
    | none =>
        simp only [ending, Option.getD_none, Option.some_or,
          Option.some.injEq] at isLast
        subst c
        rfl
    | some final =>
        simp only [ending, Option.getD_some, Option.some_or,
          Option.some.injEq] at isLast
        subst c
        exact valueBare.last final ending

theorem pair?_padded
    {left right : List Char}
    (plainName : PlainName name)
    (plainValue : PlainValue value)
    (leftBlank : ∀ c ∈ left, Text.isBlank c = true)
    (rightBlank : ∀ c ∈ right, Text.isBlank c = true) :
    pair? (left ++ (name ++ '=' :: value) ++ right) = some (name, value) := by
  have pairBare := bare_pair plainName.bare plainValue.bare
  have trimmedName : Text.trim name = name :=
    Text.trim_eq_self plainName.bare
  have trimmedValue : Text.trim value = value :=
    Text.trim_eq_self plainValue.bare
  have named : name.isEmpty = false := by
    simpa using plainName.nonempty
  simp only [pair?, Text.trim_padded leftBlank rightBlank pairBare,
    Text.splitFirst_append plainName.undivided, trimmedName, trimmedValue, named,
    Bool.false_eq_true, if_false]

theorem isNamed_of_pair?
    {piece : List Char}
    (isPair : pair? piece = some (name, value)) :
    IsNamed name piece := by
  obtain ⟨left, right, padded, leftBlank, -⟩ := Text.exists_padding piece
  rw [pair?] at isPair
  rcases divided : Text.splitFirst '=' (Text.trim piece) with ⟨before, _ | after⟩
  · simp [divided] at isPair
  · simp only [divided] at isPair
    split at isPair
    · cases isPair
    · obtain ⟨rfl, -⟩ := Prod.mk.inj (Option.some.inj isPair)
      obtain ⟨trimmed, undivided⟩ := Text.eq_append_of_splitFirst divided
      refine ⟨left ++ before, after ++ right, ?_, ?_,
        Text.trim_append_of_blank leftBlank before⟩
      · rw [padded, trimmed]
        simp
      · intro member
        rcases List.mem_append.mp member with inLeft | inBefore
        · have equalsBlank : Text.isBlank '=' = true :=
            leftBlank '=' inLeft
          exact absurd equalsBlank (by decide)
        · exact undivided inBefore

theorem pairs_intercalate
    {pieces : List (List Char)}
    (nonempty : pieces ≠ [])
    (separate : ∀ piece ∈ pieces, ';' ∉ piece) :
    pairs ([';'].intercalate pieces) = pieces.filterMap pair? := by
  rw [pairs, ← List.splitOn_eq_splitOnP,
    List.splitOn_intercalate ';' separate nonempty]

/-- What has been written into a header is read back from it. -/
theorem value?_of_holds
    {header name value : String}
    {before after : List (List Char)}
    {left right : List Char}
    (plainName : PlainName name.toList)
    (plainValue : PlainValue value.toList)
    (holds : Holds header name.toList value.toList before after left right) :
    value? header name = some value := by
  let piece := left ++ (name.toList ++ '=' :: value.toList) ++ right
  have isPair : pair? piece = some (name.toList, value.toList) :=
    pair?_padded plainName plainValue holds.leftBlank holds.rightBlank
  have blankFree
      {blanks : List Char}
      (areBlank : ∀ c ∈ blanks, Text.isBlank c = true) :
      ';' ∉ blanks := by
    intro member
    exact absurd (areBlank ';' member) (by decide)
  have pieceSeparate : ';' ∉ piece := by
    simp only [piece, List.mem_append, List.mem_cons, not_or]
    exact
      ⟨⟨blankFree holds.leftBlank, plainName.unseparated, by decide,
        plainValue.unseparated⟩, blankFree holds.rightBlank⟩
  have separate : ∀ part ∈ before ++ piece :: after, ';' ∉ part := by
    intro part member
    rcases List.mem_append.mp member with inBefore | inRest
    · exact holds.separate part (List.mem_append_left after inBefore)
    · rcases List.mem_cons.mp inRest with rfl | inAfter
      · exact pieceSeparate
      · exact holds.separate part (List.mem_append_right before inAfter)
  have notBefore :
      (before.filterMap pair?).find? (·.1 = name.toList) = none := by
    rw [List.find?_eq_none]
    intro found member
    obtain ⟨part, inBefore, isFound⟩ := List.mem_filterMap.mp member
    have named : IsNamed found.1 part :=
      isNamed_of_pair? isFound
    intro sameName
    exact holds.unnamed part inBefore (of_decide_eq_true sameName ▸ named)
  have nonempty : before ++ piece :: after ≠ [] := by
    simp
  rw [value?, holds.text, pairs_intercalate nonempty separate,
    List.filterMap_append, List.filterMap_cons_some isPair,
    List.find?_append, notBefore]
  simp

end CatalogSite.Cookie
