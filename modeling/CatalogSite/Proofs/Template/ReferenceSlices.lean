import CatalogSite.Proofs.Template.LookAhead
import CatalogSite.Proofs.Text.ByteSlices
import CatalogSite.Template.ReferenceSearch

namespace CatalogSite

/-!
# References replaced by slices

The replacement by slices keeps an invariant from match to match. What has been written comes
from the front of the text. Behind it there is a part that is still to be copied, up to where
the search goes on. Every position that a slice uses is the end of such a part, so that it
lies between two characters. After the last match all of the text has been replaced.
-/

namespace Text

theorem dropBytes?_byteLength
    (front rest : List Char) :
    dropBytes? (byteLength front) (front ++ rest) = some rest := by
  have cut := dropBytes?_append front rest 0
  rw [Nat.add_zero] at cut
  rw [cut, dropBytes?]

/-- A slice exists exactly where its two positions are ends of whole characters, in order. -/
theorem slice?_eq_some_iff
    {first last : Nat}
    {text part : List Char} :
    slice? first last text = some part ↔
      ∃ front rest,
        text = front ++ (part ++ rest) ∧
          byteLength front = first ∧ byteLength (front ++ part) = last := by
  constructor
  · intro sliced
    rw [slice?] at sliced
    split at sliced
    · rename_i ordered
      obtain ⟨behind, cut, taken⟩ := Option.bind_eq_some_iff.mp sliced
      obtain ⟨front, rfl, rfl⟩ := exists_front_of_dropBytes? cut
      obtain ⟨rest, rfl, size⟩ := exists_rest_of_takeBytes? taken
      refine ⟨front, rest, rfl, rfl, ?_⟩
      rw [byteLength_append, size, Nat.add_sub_cancel' ordered]
    · cases sliced
  · rintro ⟨front, rest, rfl, rfl, rfl⟩
    have taken := takeBytes?_append part rest 0
    rw [Nat.add_zero] at taken
    rw [slice?, byteLength_append, if_pos (Nat.le_add_right _ _),
      dropBytes?_byteLength, Option.bind_some, Nat.add_sub_cancel_left,
      taken, takeBytes?, Option.map_some, List.append_nil]

theorem utf8Size_of_isDigit
    {c : Char}
    (isDigit : c.isDigit = true) :
    c.utf8Size = 1 := by
  rw [Char.utf8Size_eq_one_iff]
  simp only [Char.isDigit, Bool.and_eq_true, decide_eq_true_eq] at isDigit
  exact UInt32.le_trans isDigit.2 (by decide)

end Text

namespace Template

/-! ## The search -/

section Search

open Text (byteLength)

variable {digits after : List Char} {position : Nat}

theorem searchFrom_of_ne
    {c : Char}
    (noDollar : c ≠ '$')
    (rest : List Char) :
    searchFrom position (c :: rest) =
      searchFrom (position + byteLength [c]) rest := by
  rw [searchFrom, if_neg fun found => noDollar found.1]
  rfl

theorem takeWhile_of_endsRun
    (isDigit : ∀ c ∈ digits, c.isDigit = true)
    (ends : EndsRun after) :
    (digits ++ after).takeWhile Char.isDigit = digits ∧
      (digits ++ after).dropWhile Char.isDigit = after := by
  rw [List.takeWhile_append_of_pos isDigit,
    List.dropWhile_append_of_pos isDigit]
  cases after with
  | nil =>
      simp
  | cons c rest =>
      simp [ends c rfl]

theorem searchFrom_of_endsRun
    (ends : EndsRun after) :
    searchFrom position ('$' :: after) =
      searchFrom (position + byteLength ['$']) after := by
  have taken := (takeWhile_of_endsRun (List.forall_mem_nil _) ends).1
  rw [List.nil_append] at taken
  rw [searchFrom, if_neg fun found => found.2 taken]
  rfl

/-- The match of a dollar sign and digits that stand at a position. -/
def Found.ofRun
    (position : Nat)
    (digits : List Char) : Found where
  start := position
  stop := position + byteLength ('$' :: digits)

/-- The search finds a dollar sign with all of its digits and goes on behind them. -/
theorem searchFrom_of_isRun
    (isRun : IsRun digits)
    (ends : EndsRun after) :
    searchFrom position ('$' :: digits ++ after) =
      Found.ofRun position digits ::
        searchFrom (position + byteLength ('$' :: digits)) after := by
  obtain ⟨taken, dropped⟩ := takeWhile_of_endsRun isRun.isDigit ends
  rw [List.cons_append, searchFrom, taken, dropped,
    if_pos ⟨rfl, isRun.nonempty⟩, Text.length_utf8]
  rfl

theorem byteLength_concat
    {last : Char}
    (isDigit : last.isDigit = true)
    (front : List Char) :
    byteLength (front ++ [last]) = byteLength front + 1 := by
  rw [Text.byteLength_append, byteLength, Text.utf8Size_of_isDigit isDigit]
  rfl

/-- Of a single digit before a brace nothing is left. -/
theorem stop?_single
    {digit : Char}
    (isDigit : digit.isDigit = true) :
    (Found.ofRun position [digit]).stop? ('\x7b' :: after) = none := by
  have size : byteLength ['$', digit] = 2 :=
    byteLength_concat isDigit ['$']
  simp [Found.stop?, Found.ofRun, size]

theorem stop?_whole
    (apart : Apart after) :
    (Found.ofRun position digits).stop? after =
      some (position + byteLength ('$' :: digits)) :=
  if_neg fun opens => (apart _ opens).2 rfl

/-- The last digit before a brace does not belong to the reference. -/
theorem stop?_shortened
    {last : Char}
    (isRun : IsRun digits)
    (isDigit : last.isDigit = true) :
    (Found.ofRun position (digits ++ [last])).stop? ('\x7b' :: after) =
      some (position + byteLength ('$' :: digits)) := by
  have size :
      byteLength ('$' :: (digits ++ [last])) =
        byteLength ('$' :: digits) + 1 :=
    byteLength_concat isDigit ('$' :: digits)
  have longEnough : 2 ≤ byteLength ('$' :: digits) := by
    obtain ⟨first, others, rfl⟩ :=
      List.exists_cons_of_ne_nil isRun.nonempty
    have sizeDollar : ('$').utf8Size = 1 :=
      rfl
    have positive := first.utf8Size_pos
    rw [byteLength, byteLength]
    omega
  have notSingle :
      ¬ position + (byteLength ('$' :: digits) + 1) - position ≤ 2 := by
    omega
  rw [Found.stop?, Found.ofRun, List.head?_cons, if_pos rfl, size,
    if_neg notSingle]
  rfl

end Search

/-! ## The replacement -/

namespace Pass

open Text (byteLength byteLength_append dropBytes? slice?)

variable
  {meaning : List Char → List Char}
  {text before pending digits after rest : List Char}

/-- Go through the matches that are found from a byte on, and finish the text. -/
def continueFrom
    (meaning : List Char → List Char)
    (text : List Char)
    (position : Nat)
    (rest : List Char)
    (pass : Pass) :
    Option (List Char) :=
  ((searchFrom position rest).foldlM (step meaning text) pass).bind
    (finish text)

theorem continueFrom_of_search
    {position later : Nat}
    (same : searchFrom position rest = searchFrom later after)
    (pass : Pass) :
    continueFrom meaning text position rest pass =
      continueFrom meaning text later after pass := by
  rw [continueFrom, continueFrom, same]

theorem continueFrom_of_isRun
    {position : Nat}
    {pass next : Pass}
    (isRun : IsRun digits)
    (ends : EndsRun after)
    (stepped :
      step meaning text pass (Found.ofRun position digits) = some next) :
    continueFrom meaning text position ('$' :: digits ++ after) pass =
      continueFrom meaning text (position + byteLength ('$' :: digits))
        after next := by
  rw [continueFrom, searchFrom_of_isRun isRun ends, List.foldlM_cons,
    stepped]
  rfl

/-- Behind a part that is added to what is pending, the positions are those of its end. -/
theorem byteLength_pending
    (before pending part : List Char) :
    byteLength (before ++ (pending ++ part)) =
      byteLength (before ++ pending) + byteLength part := by
  rw [← List.append_assoc, byteLength_append]

theorem dropBytes?_pending
    (part : List Char)
    (shape : text = before ++ (pending ++ (part ++ rest))) :
    dropBytes? (byteLength (before ++ pending) + byteLength part) text =
      some rest := by
  have grouped : text = (before ++ (pending ++ part)) ++ rest := by
    simp [shape]
  rw [← byteLength_pending, grouped, Text.dropBytes?_byteLength]

/-- A match without a reference changes nothing. -/
theorem step_of_none
    {found : Found}
    {behind : List Char}
    (meaning : List Char → List Char)
    (pass : Pass)
    (isBehind : dropBytes? found.stop text = some behind)
    (noStop : found.stop? behind = none) :
    step meaning text pass found = some pass := by
  simp [step, isBehind, noStop]

/-- What is pending is copied, and the digits up to the end of the reference are replaced. -/
theorem step_of_some
    {found : Found}
    {behind : List Char}
    (meaning : List Char → List Char)
    (written : List Char)
    (shape : text = before ++ (pending ++ ('$' :: digits ++ rest)))
    (starts : found.start = byteLength (before ++ pending))
    (isBehind : dropBytes? found.stop text = some behind)
    (stops :
      found.stop? behind =
        some (byteLength (before ++ pending) +
          byteLength ('$' :: digits))) :
    step meaning text { written, done := byteLength before } found =
      some {
        written := written ++ (pending ++ meaning digits)
        done := byteLength (before ++ (pending ++ '$' :: digits)) } := by
  rw [← byteLength_pending] at stops
  have between :
      slice? (byteLength before) found.start text = some pending :=
    Text.slice?_eq_some_iff.mpr
      ⟨before, '$' :: digits ++ rest, shape, rfl, starts.symm⟩
  have replaced :
      slice? (found.start + 1)
          (byteLength (before ++ (pending ++ '$' :: digits))) text =
        some digits := by
    refine
      Text.slice?_eq_some_iff.mpr
        ⟨before ++ (pending ++ ['$']), rest, ?_, ?_, ?_⟩
    · simp [shape]
    · rw [starts, byteLength_pending]
      rfl
    · simp
  simp [step, isBehind, stops, between, replaced]

/--
From any match on, the replacement writes what is pending and replaces the rest of the text.

The induction is on the text that is still to be searched. What has been written and what is
pending is arbitrary, since a match moves the border between them.
-/
theorem continueFrom_eq
    (before pending written : List Char)
    (shape : text = before ++ (pending ++ rest)) :
    continueFrom meaning text (byteLength (before ++ pending)) rest
        { written, done := byteLength before } =
      some (written ++ (pending ++ substitutePlain meaning none rest)) := by
  induction rest using reference_induction
    generalizing before pending written with
  | nil =>
      rw [continueFrom, searchFrom, List.foldlM_nil]
      simp [finish, shape, Text.dropBytes?_byteLength, substitutePlain]
  | other c rest noDollar inductionHypothesis =>
      have later :=
        inductionHypothesis before (pending ++ [c]) written
          (by simp [shape])
      rw [byteLength_pending] at later
      rw [continueFrom_of_search (searchFrom_of_ne noDollar rest), later,
        substitutePlain, if_neg noDollar, List.append_assoc]
      rfl
  | bare rest ends inductionHypothesis =>
      have later :=
        inductionHypothesis before (pending ++ ['$']) written
          (by simp [shape])
      rw [byteLength_pending] at later
      rw [continueFrom_of_search (searchFrom_of_endsRun ends), later,
        substitutePlain_bare ends, List.append_assoc]
      rfl
  | single digit after isDigit inductionHypothesis =>
      have isRun : IsRun [digit] :=
        ⟨List.cons_ne_nil digit [], by simpa using isDigit⟩
      have kept :=
        step_of_none meaning { written, done := byteLength before }
          (dropBytes?_pending ['$', digit] shape)
          (stop?_single isDigit)
      have later :=
        inductionHypothesis before (pending ++ ['$', digit]) written
          (by simp [shape])
      rw [byteLength_pending] at later
      refine
        (continueFrom_of_isRun isRun (endsRun_brace after) kept).trans
          (later.trans ?_)
      rw [substitutePlain_wrap isDigit, substitutePlain,
        if_neg (by decide), List.append_assoc]
      rfl
  | whole digits after isRun apart inductionHypothesis =>
      have replaced :=
        step_of_some meaning written shape rfl
          (dropBytes?_pending ('$' :: digits) shape)
          (stop?_whole apart)
      have later :=
        inductionHypothesis
          (before ++ (pending ++ '$' :: digits)) []
          (written ++ (pending ++ meaning digits)) (by simp [shape])
      rw [List.append_nil, byteLength_pending] at later
      rw [byteLength_pending] at replaced
      refine
        (continueFrom_of_isRun isRun apart.endsRun replaced).trans
          (later.trans ?_)
      rw [substitutePlain_reference isRun.nonempty isRun.isDigit apart]
      simp
  | shortened digits last after isRun isDigit inductionHypothesis =>
      have isLonger : IsRun (digits ++ [last]) :=
        ⟨by simp, List.forall_mem_append.mpr
          ⟨isRun.isDigit, by simpa using isDigit⟩⟩
      have longer :
          text =
            before ++ (pending ++
              ('$' :: (digits ++ [last]) ++ '\x7b' :: after)) := by
        simp [shape]
      have replaced :=
        step_of_some meaning written shape rfl
          (dropBytes?_pending ('$' :: (digits ++ [last])) longer) (stop?_shortened isRun isDigit)
      have later :=
        inductionHypothesis
          (before ++ (pending ++ '$' :: digits)) [last]
          (written ++ (pending ++ meaning digits))
          (by simp [shape])
      have sameEnd :
          byteLength (before ++ (pending ++ '$' :: digits) ++ [last]) =
            byteLength (before ++ pending) +
              byteLength ('$' :: (digits ++ [last])) := by
        rw [← byteLength_pending]
        simp
      rw [sameEnd] at later
      have goesOn :=
        continueFrom_of_isRun isLonger (endsRun_brace after) replaced
      rw [List.cons_append, List.append_assoc,
        List.singleton_append] at goesOn
      refine goesOn.trans (later.trans ?_)
      rw [substitutePlain_shortened isRun isDigit]
      simp

end Pass

theorem substituteSlices?_eq
    (meaning : List Char → List Char)
    (text : List Char) :
    substituteSlices? meaning text =
      some (substitutePlain meaning none text) :=
  Pass.continueFrom_eq [] [] [] rfl

/--
The first pass replaces the matches of the look-ahead pattern.

For every list of parameters and every text, the replacement by slices has a result, so that
each slice lies within the text and between two characters. The result is what the first pass
writes, and it is the one text in which every match of the pattern, from the left, is replaced
by its meaning and every other character is copied.
-/
theorem substituteSlices?_eq_some_iff_replaces
    (definitions : Definitions)
    (parameters : List Parameter)
    (text : List Char) :
    let meaning := plainMeaning definitions parameters
    substituteSlices? meaning text =
        some (substitutePlain meaning none text) ∧
      ∀ out,
        Replaces meaning text out ↔
          substituteSlices? meaning text = some out := by
  intro meaning
  refine ⟨substituteSlices?_eq meaning text, fun out => ?_⟩
  rw [substituteSlices?_eq, Option.some_inj, replaces_iff]
  exact eq_comm

/-- A digit is given back to a brace, and a single digit before a brace is no reference. -/
example :
    substituteSlices? (fun digits => '[' :: digits ++ [']'])
        "é$12\x7b$3\x7b$$٣$45é".toList =
      some "é[1]2\x7b$3\x7b$$٣[45]é".toList := by
  decide +kernel

end Template

end CatalogSite
