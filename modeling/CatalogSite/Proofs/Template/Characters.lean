import CatalogSite.Proofs.Template.Dependence
import CatalogSite.Proofs.Template.SecondPass

namespace CatalogSite.Template

/-!
# The characters of an expansion

An expansion copies the characters of its base text and of the texts that its parameters
provide. Elements write angle brackets of their own; without elements both passes read the
same text at a reference, and every character of the result comes from one of these texts
or from the fallback. That the second pass reads what the first one has written changes
nothing about this: it can put a text elsewhere, but it makes no character up.
-/

variable {allowed : Char → Prop} {definitions : Definitions}
  {parameters : List Parameter}

/-- Parameters without elements, all of whose texts consist of allowed characters. -/
structure Provide
    (allowed : Char → Prop)
    (definitions : Definitions)
    (parameters : List Parameter) :
    Prop where
  noElement : ∀ content, .element content ∉ parameters
  texts :
    ∀ content, .text content ∈ parameters →
      ∀ c ∈ content.toList, allowed c
  definitions :
    ∀ key content, .definition key ∈ parameters →
      definitions.text? key = some content →
      ∀ c ∈ content.toList, allowed c

section Passes

variable {plain : List Char → List Char}
  {wrapped : List Char → List Char → List Char} {text : List Char}

/-- A dollar sign and its digits become their meaning, or some of them stay. -/
theorem forall_mem_referenceText
    {digits : List Char}
    (meaningAllowed : ∀ digits, ∀ c ∈ plain digits, allowed c)
    (written : ∀ c ∈ '$' :: digits, allowed c)
    (next : Option Char) :
    ∀ c ∈ referenceText plain digits next, allowed c := by
  obtain ⟨dollar, inDigits⟩ := List.forall_mem_cons.mp written
  unfold referenceText
  split
  · split
    case h_1 =>
      exact written
    case h_2 last isLast _ =>
      rw [List.forall_mem_append, List.forall_mem_singleton]
      exact ⟨meaningAllowed _, inDigits last (List.mem_of_getLast? isLast)⟩
    case h_3 =>
      rw [List.forall_mem_cons]
      exact
        ⟨dollar, fun c member => inDigits c (List.dropLast_subset _ member)⟩
  · split
    · exact List.forall_mem_singleton.mpr dollar
    · exact meaningAllowed digits

/--
The first pass writes what it has read and the meanings of references.

What it has read of a reference that is still open is a dollar sign and some digits.
-/
theorem forall_mem_substitutePlain
    (meaningAllowed : ∀ digits, ∀ c ∈ plain digits, allowed c)
    {reference : Option (List Char)}
    (referenceAllowed :
      ∀ digits, reference = some digits → ∀ c ∈ '$' :: digits, allowed c)
    (textAllowed : ∀ c ∈ text, allowed c) :
    ∀ c ∈ substitutePlain plain reference text, allowed c := by
  induction text generalizing reference with
  | nil =>
      cases reference with
      | none =>
          exact List.forall_mem_nil _
      | some digits =>
          exact
            forall_mem_referenceText meaningAllowed
              (referenceAllowed digits rfl) none
  | cons c rest inductionHypothesis =>
      obtain ⟨here, later⟩ := List.forall_mem_cons.mp textAllowed
      have goesOn :
          ∀ d ∈ (if c = '$' then substitutePlain plain (some []) rest
            else c :: substitutePlain plain none rest), allowed d := by
        split
        · rename_i isDollar
          apply inductionHypothesis _ later
          rintro digits ⟨⟩
          rw [← isDollar]
          exact List.forall_mem_singleton.mpr here
        · rw [List.forall_mem_cons]
          refine ⟨here, inductionHypothesis ?_ later⟩
          rintro digits ⟨⟩
      cases reference with
      | none =>
          exact goesOn
      | some digits =>
          have openAllowed := referenceAllowed digits rfl
          rw [substitutePlain]
          split
          · apply inductionHypothesis _ later
            rintro longer ⟨⟩
            rw [← List.cons_append, List.forall_mem_append]
            exact ⟨openAllowed, List.forall_mem_singleton.mpr here⟩
          · rw [List.forall_mem_append]
            exact
              ⟨forall_mem_referenceText meaningAllowed openAllowed (some c),
                goesOn⟩

/-- The second pass writes what it has read and the meanings of wraps. -/
theorem forall_mem_substituteWraps
    (meaningAllowed :
      ∀ digits inner, ∀ c ∈ wrapped digits inner, allowed c)
    (textAllowed : ∀ c ∈ text, allowed c) :
    ∀ c ∈ substituteWraps wrapped text, allowed c := by
  induction text using substituteWraps.induct with
  | case1 =>
      rw [substituteWraps_nil]
      exact List.forall_mem_nil _
  | case2 rest digits inner after found _ inductionHypothesis =>
      obtain ⟨shape, -⟩ := wrapping?_eq_some_iff.mp found
      rw [substituteWraps_of_some found, List.forall_mem_append]
      refine ⟨meaningAllowed digits inner, inductionHypothesis ?_⟩
      intro c member
      apply textAllowed
      rw [shape]
      exact List.mem_cons_of_mem _ (List.mem_append_right _ member)
  | case3 rest found inductionHypothesis =>
      obtain ⟨here, later⟩ := List.forall_mem_cons.mp textAllowed
      rw [substituteWraps_of_none found, List.forall_mem_cons]
      exact ⟨here, inductionHypothesis later⟩
  | case4 c rest notDollar inductionHypothesis =>
      obtain ⟨here, later⟩ := List.forall_mem_cons.mp textAllowed
      rw [substituteWraps_cons_of_ne notDollar, List.forall_mem_cons]
      exact ⟨here, inductionHypothesis later⟩

end Passes

namespace Provide

theorem forall_mem_plainText?
    (provide : Provide allowed definitions parameters)
    {parameter : Parameter}
    {content : List Char}
    (member : parameter ∈ parameters)
    (provided : parameter.plainText? definitions = some content) :
    ∀ c ∈ content, allowed c := by
  cases parameter with
  | text own =>
      cases provided
      exact provide.texts own member
  | definition key =>
      obtain ⟨own, defined, rfl⟩ := Option.map_eq_some_iff.mp provided
      exact provide.definitions key own member defined
  | element own =>
      exact absurd member (provide.noElement own)
  | invalid =>
      cases provided

theorem forall_mem_plainMeaning
    (provide : Provide allowed definitions parameters)
    (fallbackAllowed : ∀ c ∈ fallback, allowed c)
    (digits : List Char) :
    ∀ c ∈ plainMeaning definitions parameters digits, allowed c := by
  unfold plainMeaning
  cases meaning :
      (Parameter.atIndex? parameters digits).bind
        (Parameter.plainText? definitions) with
  | none =>
      exact fallbackAllowed
  | some content =>
      obtain ⟨parameter, found, provided⟩ :=
        Option.bind_eq_some_iff.mp meaning
      exact
        provide.forall_mem_plainText? (List.mem_of_getElem? found) provided

/-- Without elements a reference that wraps a text reads like a plain one. -/
theorem wrapMeaning_eq
    (provide : Provide allowed definitions parameters)
    (digits inner : List Char) :
    wrapMeaning definitions parameters digits inner =
      plainMeaning definitions parameters digits := by
  have alike :
      ∀ parameter ∈ parameters,
        parameter.wrappedText? definitions inner =
          parameter.plainText? definitions := by
    intro parameter member
    cases parameter with
    | element own =>
        exact absurd member (provide.noElement own)
    | text own =>
        rfl
    | definition key =>
        rfl
    | invalid =>
        rfl
  rw [wrapMeaning, plainMeaning,
    Parameter.bind_atIndex?_congr alike digits]

theorem forall_mem_substitute
    (provide : Provide allowed definitions parameters)
    (fallbackAllowed : ∀ c ∈ fallback, allowed c)
    {base : List Char}
    (baseAllowed : ∀ c ∈ base, allowed c) :
    ∀ c ∈ substitute definitions parameters base, allowed c := by
  have plainAllowed := provide.forall_mem_plainMeaning fallbackAllowed
  apply forall_mem_substituteWraps
  · intro digits inner
    rw [provide.wrapMeaning_eq]
    exact plainAllowed digits
  · apply forall_mem_substitutePlain plainAllowed _ baseAllowed
    rintro digits ⟨⟩

/-- An expansion without elements consists of the characters that it is given. -/
theorem forall_mem_expandChars
    (provide : Provide allowed definitions parameters)
    (fallbackAllowed : ∀ c ∈ fallback, allowed c)
    {body : List Char}
    (found : parameters? body definitions = some parameters) :
    ∀ c ∈ expandChars body definitions, allowed c := by
  rw [expandChars, found]
  -- The first parameter gives the base text, whether it is the only one or not.
  cases parameters with
  | nil =>
      exact fallbackAllowed
  | cons first others =>
      cases first with
      | text _ | element _ | invalid =>
          exact fallbackAllowed
      | definition key =>
          have baseAllowed := provide.definitions key
          cases defined : definitions.text? key with
          | none =>
              cases others <;> simpa [defined] using fallbackAllowed
          | some base =>
              have allowedBase :=
                baseAllowed base List.mem_cons_self defined
              cases others with
              | nil =>
                  simpa [defined] using allowedBase
              | cons next later =>
                  simp only [defined]
                  exact
                    provide.forall_mem_substitute fallbackAllowed allowedBase

end Provide

end CatalogSite.Template
