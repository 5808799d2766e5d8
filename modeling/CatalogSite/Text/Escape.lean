namespace CatalogSite.Text

/-!
# Markup-safe text

The two angle brackets and the double quote are written as entities, so that
escaped text can neither open a tag nor leave a quoted attribute. Nothing else
changes, the ampersand included.
-/

/-- The written form of one character. -/
def escapeChar (c : Char) : List Char :=
  if c = '<' then "&lt;".toList
  else if c = '>' then "&gt;".toList
  else if c = '"' then "&quot;".toList
  else [c]

/-- The written form of a list of characters. -/
def escapeChars (text : List Char) : List Char :=
  text.flatMap escapeChar

/-- Escape the characters that could open a tag or end an attribute. -/
def escape (text : String) : String :=
  String.ofList (escapeChars text.toList)

/-- The characters that escaped text never contains. -/
def isMarkup (c : Char) : Bool :=
  c == '<' || c == '>' || c == '"'

/-- Escaping works character by character, so it distributes over concatenation. -/
@[simp] theorem escapeChars_append
    (first second : List Char) :
    escapeChars (first ++ second) = escapeChars first ++ escapeChars second :=
  List.flatMap_append

/-- The written form of a character holds no markup. -/
theorem isMarkup_of_mem_escapeChar
    {c member : Char}
    (inside : member ∈ escapeChar c) :
    isMarkup member = false := by
  have clean : (escapeChar c).all (!isMarkup ·) = true := by
    unfold escapeChar
    split
    · decide
    · split
      · decide
      · split
        · decide
        · simp [isMarkup, *]
  simpa using List.all_eq_true.1 clean member inside

end CatalogSite.Text
