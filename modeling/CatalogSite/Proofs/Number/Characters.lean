import CatalogSite.Json.Number

namespace CatalogSite

/-!
# The characters of a number

However a number has been read, its text consists of decimal digits, a minus sign and a
decimal point.
-/

variable {c : Char}

/-- A character that stands in the text of some number. -/
def isNumberMark (c : Char) : Bool :=
  c.isDigit || c == '-' || c == '.'

theorem isNumberMark_of_mem_natText
    {n : Nat}
    (member : c ∈ Number.natText n) :
    isNumberMark c = true := by
  have isDigit : c.isDigit = true :=
    Nat.isDigit_of_mem_toDigits (by decide) (by decide) member
  simp [isNumberMark, isDigit]

/-- A sign in front adds no other character. -/
theorem isNumberMark_of_mem_signed
    {negative : Bool}
    {magnitude : List Char}
    (unsigned : ∀ c ∈ magnitude, isNumberMark c = true)
    (member : c ∈ if negative then '-' :: magnitude else magnitude) :
    isNumberMark c = true := by
  cases negative with
  | false =>
      exact unsigned c member
  | true =>
      rcases List.mem_cons.mp member with rfl | inMagnitude
      · decide
      · exact unsigned c inMagnitude

theorem isNumberMark_of_mem_positional
    {decimal : Number.Decimal}
    (member : c ∈ decimal.positional) :
    isNumberMark c = true := by
  unfold Number.Decimal.positional at member
  split at member
  · exact isNumberMark_of_mem_natText member
  · rcases List.mem_append.mp member with inWhole | inFraction
    · exact isNumberMark_of_mem_natText inWhole
    · rcases List.mem_cons.mp inFraction with rfl | inPlaces
      · decide
      · rcases List.mem_append.mp inPlaces with inPadding | inDigits
        · rw [List.eq_of_mem_replicate inPadding]
          decide
        · exact isNumberMark_of_mem_natText inDigits

theorem isNumberMark_of_mem_text
    {value : NumberValue}
    (member : c ∈ value.text) :
    isNumberMark c = true := by
  cases value with
  | integer value =>
      have signed :
          c ∈ if decide (value < 0) then
              '-' :: Number.natText value.natAbs
            else Number.natText value.natAbs := by
        simpa [NumberValue.text, integerText] using member
      exact
        isNumberMark_of_mem_signed
          (fun _ => isNumberMark_of_mem_natText) signed
  | binary value =>
      exact
        isNumberMark_of_mem_signed
          (fun _ => isNumberMark_of_mem_positional) member

end CatalogSite
