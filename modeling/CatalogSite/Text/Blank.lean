namespace CatalogSite.Text

/-!
# Blank characters

The characters that separate words are those with the Unicode property
`White_Space`. Trimming and splitting into words are stated on lists of
characters, so that they can be reasoned about by recursion on the text.
-/

/-- The characters with the Unicode property `White_Space`. -/
def isBlank (c : Char) : Bool :=
  let n := c.toNat
  (9 ≤ n && n ≤ 13) || n == 32 || n == 0x85 || n == 0xA0 || n == 0x1680 ||
    (0x2000 ≤ n && n ≤ 0x200A) || n == 0x2028 || n == 0x2029 || n == 0x202F ||
    n == 0x205F || n == 0x3000

/-- Drop the longest suffix of characters that satisfy the test. -/
def dropEndWhile
    (test : Char → Bool)
    (text : List Char) :
    List Char :=
  (text.reverse.dropWhile test).reverse

/-- Drop the blanks at the front. -/
def trimStart (text : List Char) : List Char :=
  text.dropWhile isBlank

/-- Drop the blanks at the back. -/
def trimEnd (text : List Char) : List Char :=
  dropEndWhile isBlank text

/-- Drop the blanks at both ends. -/
def trim (text : List Char) : List Char :=
  trimEnd (trimStart text)

/-- Drop every leading and trailing occurrence of one character. -/
def trimChar
    (edge : Char)
    (text : List Char) :
    List Char :=
  dropEndWhile (· == edge) (text.dropWhile (· == edge))

/-- The maximal runs of characters that are not blank, in order. -/
def words (text : List Char) : List (List Char) :=
  (text.splitOnP isBlank).filter (!·.isEmpty)

end CatalogSite.Text
