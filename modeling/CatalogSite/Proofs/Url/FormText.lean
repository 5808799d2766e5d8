import CatalogSite.Proofs.Text.ByteReading
import CatalogSite.Proofs.Text.FirstSeparator
import CatalogSite.Proofs.Url.PercentText
import CatalogSite.Url.Basic

namespace CatalogSite.Url

/-!
# Written query pairs

A name or value that is written into a query holds none of the characters that divide a
query, and it is read back as it was, whatever its characters are. A pair that is appended
to a query is therefore read as one more pair behind those that the query had, even where
the query itself is not written as pairs are.
-/

variable {text : List Char}

/-- The characters that a query writes by percent sequences; a blank has a sign of its own. -/
def encodedInForm (c : Char) : Bool :=
  c != ' ' && !isFormSafe c

theorem encodeFormText_cons
    (c : Char)
    (rest : List Char) :
    encodeFormText (c :: rest) =
      (if c = ' ' then ['+']
        else if isFormSafe c then [c]
        else (String.utf8EncodeChar c).flatMap percentByte) ++
        encodeFormText rest :=
  List.flatMap_cons

/-- A written name or value holds safe characters, signs of blanks and percent sequences. -/
theorem mem_encodeFormText_cases
    {c : Char}
    (member : c ∈ encodeFormText text) :
    c = '+' ∨ isFormSafe c = true ∨ c ∈ percentMarks := by
  obtain ⟨source, -, inSource⟩ := List.mem_flatMap.mp member
  split at inSource
  · exact .inl (List.mem_singleton.mp inSource)
  · split at inSource
    · rename_i safe
      obtain rfl := List.mem_singleton.mp inSource
      exact .inr (.inl safe)
    · exact .inr (.inr (mem_percentMarks_of_mem_flatMap inSource))

theorem notMem_encodeFormText
    {separator : Char}
    (divides :
      separator ≠ '+' ∧ isFormSafe separator = false ∧
        separator ∉ percentMarks)
    (text : List Char) :
    separator ∉ encodeFormText text := by
  obtain ⟨notBlank, unsafeChar, noMark⟩ := divides
  intro member
  rcases mem_encodeFormText_cases member with blank | safe | mark
  · exact notBlank blank
  · rw [unsafeChar] at safe
    cases safe
  · exact noMark mark

theorem equals_notMem_encodeFormText
    (text : List Char) :
    '=' ∉ encodeFormText text :=
  notMem_encodeFormText (by decide) text

theorem ampersand_notMem_encodeFormText
    (text : List Char) :
    '&' ∉ encodeFormText text :=
  notMem_encodeFormText (by decide) text

/-- With its blanks read back, a written text is percent-encoded. -/
theorem map_blank_encodeFormText
    (text : List Char) :
    (encodeFormText text).map (fun c => if c = '+' then ' ' else c) =
      percentEncode encodedInForm text := by
  induction text with
  | nil =>
      rfl
  | cons c rest inductionHypothesis =>
      rw [encodeFormText_cons, List.map_append, inductionHypothesis,
        percentEncode_cons]
      by_cases blank : c = ' '
      · subst blank
        rfl
      · rw [if_neg blank]
        cases safe : isFormSafe c with
        | true =>
            have notPlus : c ≠ '+' := by
              rintro rfl
              cases safe
            simp [encodedInForm, safe, notPlus]
        | false =>
            have noPlus :
                ∀ mark ∈ (String.utf8EncodeChar c).flatMap percentByte,
                  (if mark = '+' then ' ' else mark) = mark := by
              intro mark member
              have isMark := mem_percentMarks_of_mem_flatMap member
              have notPlus : mark ≠ '+' := by
                rintro rfl
                revert isMark
                decide
              exact if_neg notPlus
            have isEncoded : encodedInForm c = true := by
              simp [encodedInForm, safe, blank]
            rw [if_neg Bool.false_ne_true, if_pos isEncoded,
              List.map_congr_left noPlus, List.map_id']

/-- A written name or value is read as what was written. -/
theorem decodeFormText_encodeFormText
    (text : List Char) :
    decodeFormText (encodeFormText text) = text := by
  unfold decodeFormText
  dsimp only
  rw [map_blank_encodeFormText, percentDecode_percentEncode (by decide),
    Text.decodeLossy_utf8]

theorem decodePair_encodePair
    (name value : String) :
    decodePair (encodePair name value) = (name, value) := by
  have divided :
      Text.splitFirst '=' (encodePair name value) =
        (encodeFormText name.toList,
          some (encodeFormText value.toList)) :=
    Text.splitFirst_append (equals_notMem_encodeFormText _) _
  simp [decodePair, divided, decodeFormText_encodeFormText]

theorem ampersand_notMem_encodePair
    (name value : String) :
    '&' ∉ encodePair name value := by
  simp [encodePair, ampersand_notMem_encodeFormText]

/-- A written pair is read as this pair. -/
theorem decodePairs_encodePair
    (name value : String) :
    decodePairs (encodePair name value) = [(name, value)] := by
  have whole :
      (encodePair name value).splitOnP (· == '&') =
        [encodePair name value] := by
    apply List.splitOnP_eq_singleton
    intro c member
    rw [beq_eq_false_iff_ne]
    rintro rfl
    exact ampersand_notMem_encodePair name value member
  have nonempty : (encodePair name value).isEmpty = false := by
    simp [encodePair]
  simp [decodePairs, whole, nonempty, decodePair_encodePair]

/-- The pairs of a query with a further piece are its own and those of the piece. -/
theorem decodePairs_append
    (query piece : List Char) :
    decodePairs (query ++ '&' :: piece) =
      decodePairs query ++ decodePairs piece := by
  rw [decodePairs, List.splitOnP_append_cons query piece rfl,
    List.filter_append, List.map_append]
  rfl

/-- An appended pair is read as one more pair, behind the pairs of the query. -/
theorem decodePairs_appendPair
    (query : List Char)
    (name value : String) :
    decodePairs (appendPair query name value) =
      decodePairs query ++ [(name, value)] := by
  cases query with
  | nil =>
      exact decodePairs_encodePair name value
  | cons c rest =>
      have appended :
          appendPair (c :: rest) name value =
            (c :: rest) ++ '&' :: encodePair name value :=
        rfl
      rw [appended, decodePairs_append, decodePairs_encodePair]

theorem queryPairs_withQueryPair
    (url : Url)
    (name value : String) :
    (url.withQueryPair name value).queryPairs =
      url.queryPairs ++ [(name, value)] :=
  decodePairs_appendPair _ name value

/-- An appended pair is the first of its name only where the URL had none. -/
theorem queryValue?_withQueryPair
    (url : Url)
    (name value : String) :
    (url.withQueryPair name value).queryValue? name =
      some ((url.queryValue? name).getD value) := by
  rw [queryValue?, queryPairs_withQueryPair, List.find?_append, queryValue?]
  cases url.queryPairs.find? (·.1 = name) with
  | none =>
      simp
  | some pair =>
      rfl

end CatalogSite.Url
