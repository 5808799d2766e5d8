import CatalogSite.Proofs.Template.SlotGrammar

namespace CatalogSite.Template

/-!
# The reader follows the grammar of slots

Each part of a slot takes the reader from one state to another: blanks leave it
seeking, a quoted text leaves it behind the closing quote, and the characters of
any other slot are collected. What a slot provides last is recorded when its comma
or the end of the text closes it. The reader gives up early only where the first
parameter cannot be a definition, so that its answer is the one that the grammar
gives to the whole text.
-/

/-- The parameters of a placeholder, if the first of them is a definition. -/
def admitted?
    (parameters : List Parameter) :
    Option (List Parameter) :=
  if parameters.head?.any Parameter.isDefinition then
    some parameters
  else
    none

/-- A first parameter that is no definition rules out all that follow. -/
theorem admitted?_cons_eq_none
    {parameter : Parameter}
    (noDefinition : parameter.isDefinition = false)
    (later : List Parameter) :
    admitted? (parameter :: later) = none := by
  simp [admitted?, noDefinition]

theorem admitted?_definition_cons
    (key : String)
    (later : List Parameter) :
    admitted? (.definition key :: later) =
      some (.definition key :: later) := by
  simp [admitted?, Parameter.isDefinition]

/-- The body of a slot whose last parameter the reader has not recorded yet. -/
inductive SlotState.Pending :
    SlotState → SlotKind → List Char → Prop where
  | closed
      (body : List Char) :
      Pending (.closed body) .text body
  | reading
      {kind : SlotKind}
      (body : List Char) :
      kind ≠ .text →
      Pending (.reading kind body) kind body

namespace Reading

variable {definitions : Definitions}

/-- Blanks in front of a slot change nothing. -/
theorem run_blanks
    {blanks : List Char}
    (allBlank : AllBlank blanks)
    (found : List Parameter)
    (after : List Char) :
    run definitions ⟨found, .seeking⟩ (blanks ++ after) =
      run definitions ⟨found, .seeking⟩ after := by
  induction blanks with
  | nil =>
      rfl
  | cons c rest inductionHypothesis =>
      obtain ⟨blank, restBlank⟩ := List.forall_mem_cons.mp allBlank
      simp only [List.cons_append, run, step, if_pos blank,
        Option.bind_some]
      exact inductionHypothesis restBlank

theorem run_comma
    (found : List Parameter)
    (after : List Char) :
    run definitions ⟨found, .seeking⟩ (',' :: after) =
      run definitions ⟨found ++ [.invalid], .seeking⟩ after := by
  simp [run, step, skip, show Text.isBlank ',' = false by decide]

theorem run_quote
    (found : List Parameter)
    (after : List Char) :
    run definitions ⟨found, .seeking⟩ ('"' :: after) =
      run definitions ⟨found, .reading .text ['"']⟩ after :=
  rfl

/-- A quoted text is collected up to its closing quote. -/
theorem run_quoted
    {content : List Char}
    (noQuote : '"' ∉ content)
    (found : List Parameter)
    (body after : List Char) :
    run definitions ⟨found, .reading .text body⟩
        (content ++ '"' :: after) =
      run definitions
        ⟨found, .closed (body ++ content ++ ['"'])⟩ after := by
  induction content generalizing body with
  | nil =>
      simp [run, step]
  | cons c rest inductionHypothesis =>
      obtain ⟨different, restFree⟩ : c ≠ '"' ∧ '"' ∉ rest := by
        simpa [eq_comm] using noQuote
      simp only [List.cons_append, run, step, if_neg different,
        Option.bind_some]
      simpa using inductionHypothesis restFree (body ++ [c])

/-- A text without a closing quote is collected up to the end. -/
theorem run_unclosed
    {content : List Char}
    (noQuote : '"' ∉ content)
    (found : List Parameter)
    (body : List Char) :
    run definitions ⟨found, .reading .text body⟩ content =
      finish definitions ⟨found, .reading .text (body ++ content)⟩ := by
  induction content generalizing body with
  | nil =>
      simp [run]
  | cons c rest inductionHypothesis =>
      obtain ⟨different, restFree⟩ : c ≠ '"' ∧ '"' ∉ rest := by
        simpa [eq_comm] using noQuote
      simp only [run, step, if_neg different, Option.bind_some]
      simpa using inductionHypothesis restFree (body ++ [c])

/-- Behind a closing quote, every character that is no blank is recorded as invalid. -/
theorem run_stray
    {stray : List Char}
    (noComma : ',' ∉ stray)
    (found : List Parameter)
    (body after : List Char) :
    run definitions ⟨found, .closed body⟩ (stray ++ after) =
      run definitions
        ⟨found ++
            List.replicate (stray.countP (!Text.isBlank ·)) .invalid,
          .closed body⟩ after := by
  induction stray generalizing found with
  | nil =>
      simp
  | cons c rest inductionHypothesis =>
      obtain ⟨different, restFree⟩ : c ≠ ',' ∧ ',' ∉ rest := by
        simpa [eq_comm] using noComma
      cases blank : Text.isBlank c with
      | true =>
          simpa [run, step, blank] using
            inductionHypothesis restFree found
      | false =>
          have recorded :=
            inductionHypothesis restFree (found ++ [.invalid])
          rw [List.append_assoc, List.singleton_append,
            ← List.replicate_succ] at recorded
          simpa [run, step, skip, blank, different] using recorded

/-- The characters of a slot without quotes are collected up to its comma. -/
theorem run_unquoted
    {kind : SlotKind}
    {rest : List Char}
    (noText : kind ≠ .text)
    (noComma : ',' ∉ rest)
    (found : List Parameter)
    (body after : List Char) :
    run definitions ⟨found, .reading kind body⟩ (rest ++ after) =
      run definitions ⟨found, .reading kind (body ++ rest)⟩ after := by
  induction rest generalizing body with
  | nil =>
      simp
  | cons c later inductionHypothesis =>
      obtain ⟨different, laterFree⟩ : c ≠ ',' ∧ ',' ∉ later := by
        simpa [eq_comm] using noComma
      have collected :=
        inductionHypothesis laterFree (body ++ [c])
      cases kind with
      | text =>
          exact (noText rfl).elim
      | element =>
          simpa [run, step, different] using collected
      | definition =>
          simpa [run, step, different] using collected

theorem run_pending_nil
    {state : SlotState}
    {kind : SlotKind}
    {body : List Char}
    (pending : state.Pending kind body)
    (found : List Parameter) :
    run definitions ⟨found, state⟩ [] =
      (close ⟨found, state⟩ definitions kind body).map
        Reading.found := by
  cases pending with
  | closed =>
      rfl
  | reading =>
      rfl

/-- A comma closes a slot, and the reader goes on behind it. -/
theorem run_pending_comma
    {state : SlotState}
    {kind : SlotKind}
    {body : List Char}
    (pending : state.Pending kind body)
    (found : List Parameter)
    (after : List Char) :
    run definitions ⟨found, state⟩ (',' :: after) =
      (close ⟨found, state⟩ definitions kind body).bind
        fun next => next.run definitions after := by
  cases pending with
  | closed =>
      simp [run, step, show Text.isBlank ',' = false by decide]
  | reading _ noText =>
      cases kind with
      | text =>
          exact (noText rfl).elim
      | element =>
          simp [run, step]
      | definition =>
          simp [run, step]

/--
Closing a slot records its parameter.

The reader gives up where this parameter is the first one and no definition, and
then nothing that follows would be admitted.
-/
theorem admitted?_close
    {found later : List Parameter}
    {state : SlotState}
    {kind : SlotKind}
    {body : List Char}
    {goOn : Reading → Option (List Parameter)}
    (goesOn :
      (goOn ⟨found ++ [kind.parameter definitions body],
          .seeking⟩).bind admitted? =
        admitted?
          (found ++ kind.parameter definitions body :: later)) :
    ((close ⟨found, state⟩ definitions kind body).bind
        goOn).bind admitted? =
      admitted?
        (found ++ kind.parameter definitions body :: later) := by
  unfold close
  dsimp only
  split
  · rename_i givesUp
    obtain ⟨isFirst, noDefinition⟩ :
        found = [] ∧
          (kind.parameter definitions body).isDefinition = false := by
      simpa using givesUp
    subst isFirst
    exact (admitted?_cons_eq_none noDefinition later).symm
  · exact goesOn

end Reading

/-- What a slot without quotes provides is what the reader makes of it. -/
theorem SlotKind.parameter_openedBy
    {definitions : Definitions}
    {c : Char}
    (noQuote : c ≠ '"')
    (rest : List Char) :
    (openedBy c).parameter definitions (c :: rest) =
      unquotedParameter definitions (c :: rest) := by
  by_cases isBracket : c = '<'
  · subst isBracket
    have ends :
        ('<' :: rest).getLast? = some '>' ↔
          rest.getLast? = some '>' := by
      cases rest with
      | nil =>
          simp
      | cons next more =>
          simp
    by_cases closed : rest.getLast? = some '>'
    · simp [openedBy, parameter, between?, unquotedParameter,
        hasClosingOrSpacedTag_iff, ends, closed]
    · simp [openedBy, parameter, between?, unquotedParameter,
        ends, closed]
  · simp [openedBy, parameter, unquotedParameter, noQuote, isBracket]

/--
Reading a slot leaves the last of its parameters pending.

The parameters before it are recorded on the way.
-/
theorem Slot.exists_pending
    {definitions : Definitions}
    {text : List Char}
    {here : List Parameter}
    (slot : Slot definitions text here) :
    ∃ recorded state kind body,
      here = recorded ++ [kind.parameter definitions body] ∧
        state.Pending kind body ∧
        ∀ found after,
          Reading.run definitions ⟨found, .seeking⟩ (text ++ after) =
            Reading.run definitions ⟨found ++ recorded, state⟩
              after := by
  cases slot with
  | @quoted content stray noQuote noComma =>
      let body := '"' :: (content ++ ['"'])
      refine
        ⟨List.replicate (stray.countP (!Text.isBlank ·)) .invalid,
          .closed body, .text, body, ?_, .closed body, ?_⟩
      · simp [SlotKind.parameter, between?, body]
      · intro found after
        have opened :
            Reading.run definitions ⟨found, .seeking⟩
                ('"' :: (content ++ '"' :: (stray ++ after))) =
              Reading.run definitions ⟨found, .reading .text ['"']⟩
                (content ++ '"' :: (stray ++ after)) :=
          Reading.run_quote found _
        have collected :
            Reading.run definitions ⟨found, .reading .text ['"']⟩
                (content ++ '"' :: (stray ++ after)) =
              Reading.run definitions ⟨found, .closed body⟩
                (stray ++ after) :=
          Reading.run_quoted noQuote found ['"'] (stray ++ after)
        simpa [body] using
          (opened.trans collected).trans
            (Reading.run_stray noComma found body after)
  | @unquoted c rest noQuote ink noComma =>
      obtain ⟨different, restFree⟩ : c ≠ ',' ∧ ',' ∉ rest := by
        simpa [eq_comm] using noComma
      have noText : SlotKind.openedBy c ≠ .text := by
        unfold SlotKind.openedBy
        rw [if_neg noQuote]
        split <;> simp
      refine
        ⟨[], .reading (.openedBy c) (c :: rest), .openedBy c,
          c :: rest, ?_, .reading (c :: rest) noText, ?_⟩
      · rw [SlotKind.parameter_openedBy noQuote]
        rfl
      · intro found after
        have opened :
            Reading.run definitions ⟨found, .seeking⟩
                (c :: (rest ++ after)) =
              Reading.run definitions
                ⟨found, .reading (.openedBy c) [c]⟩ (rest ++ after) := by
          simp [Reading.run, Reading.step, ink, different]
        simpa using
          opened.trans
            (Reading.run_unquoted noText restFree found [c] after)

/-- A slot with a comma behind it is read like the row that it begins. -/
theorem Slot.admitted?_run_comma
    {definitions : Definitions}
    {text rest : List Char}
    {here found later : List Parameter}
    (slot : Slot definitions text here)
    (goesOn :
      (Reading.run definitions ⟨found ++ here, .seeking⟩
          rest).bind admitted? =
        admitted? (found ++ here ++ later)) :
    (Reading.run definitions ⟨found, .seeking⟩
        (text ++ ',' :: rest)).bind admitted? =
      admitted? (found ++ here ++ later) := by
  obtain ⟨recorded, state, kind, body, rfl, pending, reaches⟩ :=
    slot.exists_pending
  have shape :
      found ++ (recorded ++ [kind.parameter definitions body]) ++
          later =
        found ++ recorded ++
          kind.parameter definitions body :: later := by
    simp
  rw [reaches, Reading.run_pending_comma pending, shape]
  apply Reading.admitted?_close
  rw [← shape, ← goesOn, List.append_assoc]

/-- A slot at the end is read like a slot with a comma and nothing behind it. -/
theorem Slot.run_nil
    {definitions : Definitions}
    {text : List Char}
    {here : List Parameter}
    (slot : Slot definitions text here)
    (found : List Parameter) :
    Reading.run definitions ⟨found, .seeking⟩ text =
      Reading.run definitions ⟨found, .seeking⟩ (text ++ [',']) := by
  obtain ⟨recorded, state, kind, body, -, pending, reaches⟩ :=
    slot.exists_pending
  have atEnd := reaches found []
  rw [List.append_nil, Reading.run_pending_nil pending] at atEnd
  rw [atEnd, reaches, Reading.run_pending_comma pending]
  unfold Reading.close
  dsimp only
  split <;> rfl

/-- The reader admits what the grammar provides, behind what it has found before. -/
theorem Slots.admitted?_run
    {definitions : Definitions}
    {text : List Char}
    {parameters : List Parameter}
    (slots : Slots definitions text parameters)
    (found : List Parameter) :
    (Reading.run definitions ⟨found, .seeking⟩ text).bind admitted? =
      admitted? (found ++ parameters) := by
  induction slots generalizing found with
  | @nothing blanks allBlank =>
      rw [← List.append_nil blanks, Reading.run_blanks allBlank,
        List.append_nil]
      rfl
  | @skipped blanks rest later allBlank _ inductionHypothesis =>
      rw [Reading.run_blanks allBlank, Reading.run_comma,
        inductionHypothesis, List.append_assoc]
      rfl
  | @unclosed blanks content allBlank noQuote =>
      have noLast : content.getLast? ≠ some '"' :=
        fun isLast => noQuote (List.mem_of_getLast? isLast)
      have noMeaning :
          SlotKind.text.parameter definitions ('"' :: content) =
            .invalid := by
        simp [SlotKind.parameter, between?, noLast]
      have closes :
          ((Reading.close
                ⟨found, .reading .text ('"' :: content)⟩ definitions
                .text ('"' :: content)).bind
              fun next => some next.found).bind admitted? =
            admitted?
              (found ++
                SlotKind.text.parameter definitions
                    ('"' :: content) :: []) :=
        Reading.admitted?_close rfl
      rw [noMeaning] at closes
      rw [Reading.run_blanks allBlank, Reading.run_quote,
        Reading.run_unclosed noQuote, ← closes]
      exact congrArg (Option.bind · admitted?) Option.map_eq_bind
  | @last blanks slot here allBlank isSlot =>
      have ended :
          (Reading.run definitions ⟨found, .seeking⟩
              (slot ++ [','])).bind admitted? =
            admitted? (found ++ here ++ []) :=
        isSlot.admitted?_run_comma
          (by simp [Reading.run, Reading.finish])
      rw [Reading.run_blanks allBlank, isSlot.run_nil, ended,
        List.append_nil]
  | @followed blanks slot rest here later allBlank isSlot _
      inductionHypothesis =>
      rw [Reading.run_blanks allBlank, ← List.append_assoc found]
      exact isSlot.admitted?_run_comma
        (inductionHypothesis (found ++ here))

/-- A text is a row of slots in only one way. -/
theorem Slots.unique
    {definitions : Definitions}
    {text : List Char}
    {first second : List Parameter}
    (firstSlots : Slots definitions text first)
    (secondSlots : Slots definitions text second) :
    first = second := by
  -- Behind a definition the reader never gives up, so that it provides all.
  have same :=
    (firstSlots.admitted?_run [.definition ""]).symm.trans
      (secondSlots.admitted?_run [.definition ""])
  simpa [admitted?_definition_cons] using same

/-- A text that begins with a comma behind blanks provides something invalid first. -/
theorem exists_slots_of_leading_comma
    (definitions : Definitions)
    {body : List Char}
    (comma : Text.startsWith [','] (Text.trimStart body) = true) :
    ∃ later, Slots definitions body (.invalid :: later) := by
  obtain ⟨rest, trimmed⟩ := Text.startsWith_iff.mp comma
  have allBlank : AllBlank (body.takeWhile Text.isBlank) :=
    List.all_eq_true.mp List.all_takeWhile
  have divided :
      body.takeWhile Text.isBlank ++ ',' :: rest = body :=
    (congrArg _ trimmed.symm).trans List.takeWhile_append_dropWhile
  obtain ⟨later, slots⟩ := exists_slots definitions rest
  refine ⟨later, ?_⟩
  rw [← divided]
  exact .skipped allBlank slots

/-- The parameters of a placeholder are those of its slots, as far as they are admitted. -/
theorem parameters?_eq_admitted?
    {definitions : Definitions}
    {body : List Char}
    {parameters : List Parameter}
    (defined : definitions.isEmpty = false)
    (slots : Slots definitions body parameters) :
    parameters? body definitions = admitted? parameters := by
  rw [parameters?]
  split
  · rename_i refused
    have cause :
        body = [] ∨
          Text.startsWith [','] (Text.trimStart body) = true := by
      simpa [defined] using refused
    rcases cause with rfl | comma
    · have nothing : Slots definitions [] [] :=
        .nothing (by simp [AllBlank])
      rw [slots.unique nothing]
      rfl
    · obtain ⟨later, commaSlots⟩ :=
        exists_slots_of_leading_comma definitions comma
      rw [slots.unique commaSlots]
      rfl
  · rw [← List.nil_append parameters, ← slots.admitted?_run []]
    change _ = (Reading.start.run definitions body).bind admitted?
    cases Reading.start.run definitions body with
    | none =>
        rfl
    | some read =>
        cases read with
        | nil =>
            rfl
        | cons first later =>
            cases first <;> rfl

/--
The parameters of a placeholder are what the grammar of slots provides.

Every body is a row of slots in exactly one way. There are no parameters exactly
when the first thing that the row provides is missing or no definition, and
otherwise they are all that it provides.
-/
theorem parameters?_eq_slots
    {definitions : Definitions}
    (defined : definitions.isEmpty = false)
    (body : List Char) :
    ∃ provided,
      Slots definitions body provided ∧
        (∀ other, Slots definitions body other → other = provided) ∧
        (parameters? body definitions = none ↔
          ∀ key, provided.head? ≠ some (.definition key)) ∧
        ∀ parameters,
          parameters? body definitions = some parameters →
          parameters = provided := by
  obtain ⟨provided, slots⟩ := exists_slots definitions body
  refine ⟨provided, slots, fun _ other => other.unique slots, ?_⟩
  rw [parameters?_eq_admitted? defined slots]
  cases provided with
  | nil =>
      simp [admitted?]
  | cons first later =>
      cases first <;> simp [admitted?, Parameter.isDefinition]

/--
Stray text behind a string, a missing slot, an element that closes a tag, a comma
inside a string and a trailing comma in one body.
-/
theorem parameters?_eq_slots_mixed :
    let definitions : Definitions := .ofTexts [("a", "A $1")]
    let body := "a, \"x, y\" z ,,<b>,</b>,".toList
    definitions.isEmpty = false ∧
      Slots definitions body
        [.definition "a", .invalid, .text "x, y", .invalid,
          .element "b", .invalid] ∧
      parameters? body definitions =
        some [.definition "a", .invalid, .text "x, y", .invalid,
          .element "b", .invalid] := by
  intro definitions body
  have read :
      parameters? body definitions =
        some [.definition "a", .invalid, .text "x, y", .invalid,
          .element "b", .invalid] := by
    decide
  have defined : definitions.isEmpty = false :=
    rfl
  obtain ⟨provided, slots, -, -, same⟩ :=
    parameters?_eq_slots defined body
  rw [← same _ read] at slots
  exact ⟨defined, slots, read⟩

end CatalogSite.Template
