import CatalogSite.Proofs.Dictionary.Lookup
import CatalogSite.Template.Render

namespace CatalogSite.Template

/-!
# What an expansion depends on

Reading the parameters of a placeholder looks at the keys of the definitions and
at no value. Expanding a placeholder looks further at the values of the
definitions that its parameters name, and at no other value.
-/

section Keys

variable {first second : Definitions}

/-- The meaning of a slot depends on the keys alone. -/
theorem SlotKind.parameter_congr
    (sameKeys : first.SameKeys second)
    (kind : SlotKind)
    (body : List Char) :
    kind.parameter first body = kind.parameter second body := by
  cases kind with
  | text =>
      rfl
  | element =>
      rfl
  | definition =>
      simp only [parameter, sameKeys (String.ofList body)]

namespace Reading

theorem close_congr
    (sameKeys : first.SameKeys second)
    (reading : Reading)
    (kind : SlotKind)
    (body : List Char) :
    reading.close first kind body =
      reading.close second kind body := by
  simp only [close, SlotKind.parameter_congr sameKeys]

/-- Reading one character depends on the keys alone. -/
theorem step_congr
    (sameKeys : first.SameKeys second)
    (reading : Reading)
    (c : Char) :
    reading.step first c = reading.step second c := by
  rcases reading with ⟨found, state⟩
  cases state with
  | seeking =>
      rfl
  | reading kind body =>
      cases kind with
      | text =>
          rfl
      | element =>
          simp only [step, close_congr sameKeys]
      | definition =>
          simp only [step, close_congr sameKeys]
  | closed body =>
      simp only [step, close_congr sameKeys]

theorem finish_congr
    (sameKeys : first.SameKeys second)
    (reading : Reading) :
    reading.finish first = reading.finish second := by
  rcases reading with ⟨found, state⟩
  cases state with
  | seeking =>
      rfl
  | reading kind body =>
      simp only [finish, close_congr sameKeys]
  | closed body =>
      simp only [finish, close_congr sameKeys]

/-- A whole reading depends on the keys alone. -/
theorem run_congr
    (sameKeys : first.SameKeys second)
    (reading : Reading)
    (text : List Char) :
    reading.run first text = reading.run second text := by
  induction text generalizing reading with
  | nil =>
      exact finish_congr sameKeys reading
  | cons c rest inductionHypothesis =>
      simp only [run, step_congr sameKeys, inductionHypothesis]

end Reading

/-- The parameters of a placeholder depend on the keys alone. -/
theorem parameters?_congr
    (sameKeys : first.SameKeys second)
    (body : List Char) :
    parameters? body first = parameters? body second := by
  simp only [parameters?, sameKeys.isEmpty_eq,
    Reading.run_congr sameKeys]

end Keys

/-- Two maps give the same text to every definition among some parameters. -/
def AgreeOn
    (parameters : List Parameter)
    (first second : Definitions) : Prop :=
  ∀ key, .definition key ∈ parameters →
    first.text? key = second.text? key

section Texts

variable {first second : Definitions} {parameters : List Parameter}

/--
A reference that reads its parameter alike has one text.

The parameter that a run of digits denotes is one of those listed.
-/
theorem Parameter.bind_atIndex?_congr
    {firstText secondText : Parameter → Option (List Char)}
    (alike :
      ∀ parameter ∈ parameters,
        firstText parameter = secondText parameter)
    (digits : List Char) :
    (atIndex? parameters digits).bind firstText =
      (atIndex? parameters digits).bind secondText := by
  cases found : atIndex? parameters digits with
  | none =>
      rfl
  | some parameter =>
      exact alike parameter (List.mem_of_getElem? found)

/-- A plain reference reads no text but those its parameters name. -/
theorem plainMeaning_congr
    (agree : AgreeOn parameters first second)
    (digits : List Char) :
    plainMeaning first parameters digits =
      plainMeaning second parameters digits := by
  have alike :
      ∀ parameter ∈ parameters,
        parameter.plainText? first = parameter.plainText? second := by
    intro parameter member
    cases parameter with
    | definition key =>
        simp only [Parameter.plainText?, agree key member]
    | text content =>
        rfl
    | element content =>
        rfl
    | invalid =>
        rfl
  rw [plainMeaning, plainMeaning,
    Parameter.bind_atIndex?_congr alike digits]

/-- A wrapping reference reads no text but those its parameters name. -/
theorem wrapMeaning_congr
    (agree : AgreeOn parameters first second)
    (digits inner : List Char) :
    wrapMeaning first parameters digits inner =
      wrapMeaning second parameters digits inner := by
  have alike :
      ∀ parameter ∈ parameters,
        parameter.wrappedText? first inner =
          parameter.wrappedText? second inner := by
    intro parameter member
    cases parameter with
    | definition key =>
        simp only [Parameter.wrappedText?, agree key member]
    | text content =>
        rfl
    | element content =>
        rfl
    | invalid =>
        rfl
  rw [wrapMeaning, wrapMeaning,
    Parameter.bind_atIndex?_congr alike digits]

/-- Putting parameters into a base text reads no text but those they name. -/
theorem substitute_congr
    (agree : AgreeOn parameters first second)
    (base : List Char) :
    substitute first parameters base =
      substitute second parameters base := by
  have plainSame :
      plainMeaning first parameters =
        plainMeaning second parameters :=
    funext (plainMeaning_congr agree)
  have wrapSame :
      wrapMeaning first parameters =
        wrapMeaning second parameters :=
    funext fun digits =>
      funext (wrapMeaning_congr agree digits)
  rw [substitute, substitute, plainSame, wrapSame]

end Texts

/--
An expansion depends on the keys and on the texts of the definitions that its
parameters name.
-/
theorem expandChars_congr
    {first second : Definitions}
    {body : List Char}
    (sameKeys : first.SameKeys second)
    (agree :
      ∀ parameters, parameters? body first = some parameters →
        AgreeOn parameters first second) :
    expandChars body first = expandChars body second := by
  unfold expandChars
  rw [← parameters?_congr sameKeys]
  cases found : parameters? body first with
  | none =>
      rfl
  | some parameters =>
      have agreeHere := agree parameters found
      -- Only a leading definition makes an expansion look at a text.
      match parameters with
      | [] | .text _ :: _ | .element _ :: _ | .invalid :: _ =>
          rfl
      | .definition key :: others =>
          have baseSame := agreeHere key List.mem_cons_self
          cases others with
          | nil =>
              simp only [baseSame]
          | cons next later =>
              simp only [baseSame, substitute_congr agreeHere]

/-- A placeholder that only names a definition stands for its text. -/
theorem expandChars_of_alone
    {definitions : Definitions}
    {body : List Char}
    {key content : String}
    (alone :
      parameters? body definitions = some [.definition key])
    (defined : definitions.text? key = some content) :
    expandChars body definitions = content.toList := by
  simp [expandChars, alone, defined]

end CatalogSite.Template
