import CatalogSite.Proofs.Text.LowercaseParts

namespace CatalogSite.Text

/-!
# The case of ASCII letters within lowercase forms

Two notions of equality up to case meet here: the one knows the letters of ASCII only,
and the other compares lowercase forms, in which a letter may depend on its neighbours.
An ASCII capital and its small letter have the same form, and both are letters with case
to a sigma beside them. So texts that are equal in the first sense have one lowercase form.
-/

variable {first second : String}

/-- The capital letters of ASCII. -/
def asciiCapitals : List Char :=
  (List.range' 65 26).map Char.ofNat

theorem mem_asciiCapitals_or_toLower_eq
    (c : Char) :
    c ∈ asciiCapitals ∨ c.toLower = c := by
  by_cases isCapital : 65 ≤ c.toNat ∧ c.toNat ≤ 90
  · left
    have inRange : c.toNat ∈ List.range' 65 26 := by
      rw [List.mem_range'_1]
      omega
    exact List.mem_map.mpr ⟨c.toNat, inRange, Char.ofNat_toNat c⟩
  · right
    exact dif_neg isCapital

/-- What a small letter of ASCII has in common with its capital. -/
structure LowersAlike
    (capital small : Char) :
    Prop where
  ignorable : isCaseIgnorable small = isCaseIgnorable capital
  cased : isCased small = isCased capital
  form :
    ∀ before after,
      lowerBetween before small after = lowerBetween before capital after

/-- An ASCII letter has its case to the letters around it, and one lowercase form. -/
theorem lowersAlike_toLower
    (c : Char) :
    LowersAlike c c.toLower := by
  rcases mem_asciiCapitals_or_toLower_eq c with isCapital | same
  · -- A test on a list: a quantifier over characters would run through all of them.
    have inData :
        asciiCapitals.all fun c =>
          isCaseIgnorable c.toLower = isCaseIgnorable c ∧
            isCased c.toLower = isCased c ∧
            c ≠ capitalSigma ∧
            c.toLower ≠ capitalSigma ∧
            lowerChar c.toLower = lowerChar c := by
      decide
    obtain ⟨ignorable, cased, noSigma, smallNoSigma, sameForm⟩ :=
      of_decide_eq_true (List.all_eq_true.mp inData c isCapital)
    refine { ignorable, cased, form := ?_ }
    intro before after
    rw [lowerBetween_of_ne noSigma, lowerBetween_of_ne smallNoSigma]
    exact sameForm
  · rw [same]
    exact ⟨rfl, rfl, fun _ _ => rfl⟩

/-- A sigma sees the same letters when the ASCII letters around it are made small. -/
theorem startsCased_map_toLower
    (text : List Char) :
    startsCased (text.map Char.toLower) = startsCased text := by
  induction text with
  | nil =>
      rfl
  | cons c rest inductionHypothesis =>
      have alike := lowersAlike_toLower c
      rw [List.map_cons, startsCased_cons, startsCased_cons,
        inductionHypothesis, alike.ignorable, alike.cased]

theorem lowercaseAfter_map_toLower
    (before text : List Char) :
    lowercaseAfter (before.map Char.toLower) (text.map Char.toLower) =
      lowercaseAfter before text := by
  induction text generalizing before with
  | nil =>
      rfl
  | cons c rest inductionHypothesis =>
      have sameRest := inductionHypothesis (c :: before)
      have sameHead :
          lowerBetween (before.map Char.toLower) c.toLower
              (rest.map Char.toLower) =
            lowerBetween before c rest :=
        ((lowersAlike_toLower c).form _ _).trans
          (lowerBetween_congr (startsCased_map_toLower before)
            (startsCased_map_toLower rest) c)
      rw [List.map_cons] at sameRest
      rw [List.map_cons, lowercaseAfter, lowercaseAfter, sameHead, sameRest]

/-- Texts that are equal up to the case of ASCII letters have one lowercase form. -/
theorem lowercase_eq_of_equalsIgnoringAsciiCase
    (same : equalsIgnoringAsciiCase first second = true) :
    lowercase first = lowercase second := by
  have sameSmall :
      first.toList.map Char.toLower = second.toList.map Char.toLower := by
    simpa [equalsIgnoringAsciiCase] using same
  refine congrArg String.ofList ?_
  calc
    lowercaseChars first.toList
        = lowercaseAfter [] (first.toList.map Char.toLower) :=
      (lowercaseAfter_map_toLower [] first.toList).symm
    _ = lowercaseAfter [] (second.toList.map Char.toLower) := by
      rw [sameSmall]
    _ = lowercaseChars second.toList :=
      lowercaseAfter_map_toLower [] second.toList

end CatalogSite.Text
