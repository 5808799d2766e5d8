namespace CatalogSite.Text

/-!
# Parts of a text

Prefix removal, occurrence and joining on lists of characters. An occurrence
is a decomposition of the text around the part that is looked for.
-/

/-- The rest of a text after a given beginning, if it begins that way. -/
def dropPrefix? : List Char → List Char → Option (List Char)
  | [], text => some text
  | _ :: _, [] => none
  | expected :: more, c :: rest =>
      if expected = c then dropPrefix? more rest else none

/-- A beginning can be removed exactly when the text consists of it and a rest. -/
theorem dropPrefix?_eq_some_iff
    {beginning text rest : List Char} :
    dropPrefix? beginning text = some rest ↔ text = beginning ++ rest := by
  induction beginning generalizing text with
  | nil => simp [dropPrefix?]
  | cons expected more inductionHypothesis =>
      cases text with
      | nil => simp [dropPrefix?]
      | cons c tail =>
          by_cases same : expected = c
          · simp [dropPrefix?, same, inductionHypothesis]
          · simp [dropPrefix?, same, Ne.symm same]

/-- Whether a text begins with a given part. -/
def startsWith (beginning text : List Char) : Bool :=
  (dropPrefix? beginning text).isSome

/-- Whether a part occurs anywhere in a text. -/
def occursIn (part : List Char) : List Char → Bool
  | [] => part.isEmpty
  | c :: rest => startsWith part (c :: rest) || occursIn part rest

/-- A text begins with a part exactly when something follows the part. -/
theorem startsWith_iff
    {beginning text : List Char} :
    startsWith beginning text = true ↔ ∃ rest, text = beginning ++ rest := by
  simp [startsWith, Option.isSome_iff_exists, dropPrefix?_eq_some_iff]

/-- A part occurs in a text exactly when the text can be split around it. -/
theorem occursIn_iff
    {part text : List Char} :
    occursIn part text = true ↔
      ∃ before after, text = before ++ part ++ after := by
  induction text with
  | nil => simp [occursIn]
  | cons c rest inductionHypothesis =>
      rw [occursIn, Bool.or_eq_true, startsWith_iff, inductionHypothesis]
      constructor
      · rintro (⟨after, found⟩ | ⟨before, after, found⟩)
        · exact ⟨[], after, by simpa using found⟩
        · exact ⟨c :: before, after, by simp [found]⟩
      · rintro ⟨before, after, found⟩
        cases before with
        | nil => exact .inl ⟨after, by simpa using found⟩
        | cons first more =>
            obtain ⟨rfl, remaining⟩ := List.cons.inj found
            exact .inr ⟨more, after, by simpa using remaining⟩

/-- The text before the first separator and, if there is one, the text after it. -/
def splitFirst (separator : Char) : List Char → List Char × Option (List Char)
  | [] => ([], none)
  | c :: rest =>
      if c = separator then
        ([], some rest)
      else
        let (before, after) := splitFirst separator rest
        (c :: before, after)

/-- Join texts, writing a separator between neighbours. -/
def joinWith
    (separator : String)
    (parts : List String) :
    String :=
  separator.intercalate parts

/-- Replace every occurrence of one character by a text. -/
def replaceChar
    (old : Char)
    (new : List Char)
    (text : List Char) :
    List Char :=
  text.flatMap fun c => if c = old then new else [c]

end CatalogSite.Text
