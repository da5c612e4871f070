import GrammarKit.Proofs.Input
import GrammarKit.Proofs.Simulation
/-!
# What was consumed is forgotten

Parsing looks at the symbols that are left and never at those before the cursor. Two inputs with the
same symbols left keep pace: whatever a parser does on one, it does on the other, and both cursors
move by the same count. Cursors are absolute, and parsers compare them in two places, where a
repetition asks whether a run has moved and where a choice asks which error is further on. Both
comparisons come out alike, because in each run the cursors compared are all shifted by the same
amount.
-/

namespace GrammarKit

namespace Input

variable {start start' input input' : Input}

/-- Whether two inputs have moved by the same count from two starts. -/
def Abreast (start start' input input' : Input) : Prop :=
  ∃ count ≤ start.remaining, input = start.advance count ∧ input' = start'.advance count

namespace Abreast

/-- Two starts are abreast. -/
theorem refl (start start' : Input) : Abreast start start' start start' :=
  ⟨0, Nat.zero_le _, rfl, rfl⟩

/-- Inputs abreast have the same symbols left when their starts do. -/
theorem rest_eq (same : start.rest = start'.rest) (abreast : Abreast start start' input input') :
    input.rest = input'.rest := by
  obtain ⟨count, -, rfl, rfl⟩ := abreast
  rw [rest_advance, rest_advance, same]

/-- Inputs abreast have the same surroundings when their starts do. -/
theorem surroundings_eq (same : start.surroundings = start'.surroundings)
    (abreast : Abreast start start' input input') : input.surroundings = input'.surroundings := by
  obtain ⟨count, -, rfl, rfl⟩ := abreast
  rw [advance_surroundings, advance_surroundings, same]

/-- The cursors of inputs abreast are as far from each other as those of their starts. -/
theorem cursor_add (same : start.rest = start'.rest)
    (abreast : Abreast start start' input input') :
    input.cursor + start'.cursor = input'.cursor + start.cursor := by
  obtain ⟨count, enough, rfl, rfl⟩ := abreast
  have enough' : count ≤ start'.remaining := by
    rwa [remaining_eq_length, ← same, ← remaining_eq_length]
  rw [cursor_advance enough, cursor_advance enough']
  omega

/-- Inputs abreast have the same symbol under their cursors. -/
theorem peek?_eq (same : start.rest = start'.rest) (abreast : Abreast start start' input input') :
    input.peek? = input'.peek? := by
  rw [peek?_eq_head?, peek?_eq_head?, abreast.rest_eq same]

/-- Inputs abreast have equally many symbols left. -/
theorem remaining_eq (same : start.rest = start'.rest)
    (abreast : Abreast start start' input input') : input.remaining = input'.remaining := by
  rw [remaining_eq_length, remaining_eq_length, abreast.rest_eq same]

/-- Of inputs abreast one has moved exactly when the other has. -/
theorem moved_iff (same : start.rest = start'.rest) {later later' : Input}
    (abreast : Abreast start start' input input') (still : Abreast start start' later later') :
    later.cursor = input.cursor ↔ later'.cursor = input'.cursor := by
  have shift := abreast.cursor_add same
  have shift' := still.cursor_add same
  omega

/-- Past the same symbol inputs are still abreast. -/
theorem past {symbol : Char} (same : start.rest = start'.rest)
    (abreast : Abreast start start' input input') (found : input.peek? = some symbol) :
    Abreast start start' (input.past symbol) (input'.past symbol) := by
  have found' : input'.peek? = some symbol := by
    rw [← abreast.peek?_eq same, found]
  have more := remaining_past found
  obtain ⟨count, enough, rfl, rfl⟩ := abreast
  rw [remaining_advance] at more
  refine ⟨count + 1, by omega, ?_, ?_⟩
  · rw [← advance_advance, advance_one found]
  · rw [← advance_advance, advance_one found']

end Abreast

end Input

/-- Whether two errors are the same but for where their runs started: they agree in kind, message
and production, and are equally far from the starts. -/
structure ParseError.SameFrom (start start' : Input) (error error' : ParseError) : Prop where
  /-- The kinds agree. -/
  kind : error.kind = error'.kind
  /-- The messages agree. -/
  message : error.message = error'.message
  /-- The productions agree. -/
  production : error.production = error'.production
  /-- The distances from the starts agree. -/
  distance : error.location.cursor - start.cursor = error'.location.cursor - start'.cursor

namespace ParseError.SameFrom

variable {start start' : Input} {error error' kept kept' : ParseError}

/-- Errors made at the cursors of inputs abreast are the same. -/
theorem fail (around : start.surroundings = start'.surroundings) (same : start.rest = start'.rest)
    {input input' : Input} (abreast : Input.Abreast start start' input input') (kind : String)
    (args : List Host) : SameFrom start start' (input.fail kind args) (input'.fail kind args) where
  kind := rfl
  message := by simp only [Input.fail, abreast.surroundings_eq around]
  production := rfl
  distance := by
    have shift := abreast.cursor_add same
    simp only [Input.fail, Input.location]
    omega

/-- A name keeps errors the same. -/
theorem within (name : String) (same : SameFrom start start' error error') :
    SameFrom start start' (error.within name) (error'.within name) := by
  obtain ⟨kind, message, production, distance⟩ := same
  unfold ParseError.within
  rw [← production]
  split
  · exact ⟨kind, message, rfl, distance⟩
  · exact ⟨kind, message, production, distance⟩

/-- Errors that are the same come in the same order. -/
theorem before_eq (errors : SameFrom start start' error error')
    (kepts : SameFrom start start' kept kept') :
    error.location.before kept.location = error'.location.before kept'.location := by
  have distance := errors.distance
  have distance' := kepts.distance
  simp only [Location.before, decide_eq_decide]
  omega

/-- A policy picks the same of errors that are the same. -/
theorem pick (policy : ErrorPolicy) {failed failed' : Option ParseError}
    (kept : Option.Rel (SameFrom start start') failed failed')
    (errors : SameFrom start start' error error') :
    SameFrom start start' (policy.pick failed error) (policy.pick failed' error') :=
  ErrorPolicy.pick_rel before_eq policy kept errors

end ParseError.SameFrom

namespace Simulation

/-- The runs from two starts with the same surroundings and the same symbols left: inputs stay
abreast, and errors are the same but for where the runs started. -/
def abreast {start start' : Input} (around : start.surroundings = start'.surroundings)
    (same : start.rest = start'.rest) : Simulation where
  onInput := Input.Abreast start start'
  onError := ParseError.SameFrom start start'
  cutShort := False
  peek inputs := inputs.peek?_eq same
  remaining inputs := inputs.remaining_eq same
  past inputs found := inputs.past same found
  moved inputs rests := inputs.moved_iff same rests
  fail kind args inputs := .fail around same inputs kind args
  pick inputs kept errors := inputs.surroundings_eq around ▸ errors.pick _ kept
  within name errors := errors.within name

end Simulation

namespace Grammar

/-- From two inputs with the same surroundings and the same symbols left, whatever was consumed
before them, a term over a grammar accepts the same value after the same count of symbols, rejects
with the same error at the same distance, or stops with the same fault, when no conversion makes up
errors. -/
theorem parser_verdict_of_rest_eq {grammar : Grammar} {term : Term}
    (rules : grammar.Every (Term.RefusesWith fun _ => False))
    (refusals : term.Every (Term.RefusesWith fun _ => False)) (input input' : Input)
    (around : input.surroundings = input'.surroundings) (same : input.rest = input'.rest) :
    match (grammar.parser term input).verdict, (grammar.parser term input').verdict with
    | .accept value rest, .accept value' rest' =>
      value = value' ∧ ∃ count, rest.cursor = input.cursor + count ∧
        rest'.cursor = input'.cursor + count ∧ rest = input.advance count ∧
        rest' = input'.advance count
    | .reject error, .reject error' =>
      error.kind = error'.kind ∧ error.message = error'.message ∧
        error.production = error'.production ∧
        error.location.cursor - input.cursor = error'.location.cursor - input'.cursor
    | .fault fault, .fault fault' => fault = fault'
    | _, _ => False := by
  let S := Simulation.abreast around same
  have widen {term : Term} (refusals : term.Every (Term.RefusesWith fun _ => False)) :
      term.Every (Term.RefusesWith fun error => S.onError error error) :=
    refusals.mono (Term.RefusesWith.mono fun _ => False.elim)
  have rules : grammar.Every _ := fun name body found => widen (rules name body found)
  have related : S.OnParser (grammar.parser term) (grammar.parser term) :=
    Simulation.grammarParser rules (widen refusals)
  have related := related (Input.Abreast.refl input input')
  generalize (grammar.parser term input).verdict = verdict,
    (grammar.parser term input').verdict = verdict' at related ⊢
  cases related with
  | accept value rests =>
    obtain ⟨count, enough, rfl, rfl⟩ := rests
    have enough' : count ≤ input'.remaining := by
      rwa [Input.remaining_eq_length, ← same, ← Input.remaining_eq_length]
    exact ⟨rfl, count, Input.cursor_advance enough, Input.cursor_advance enough', rfl, rfl⟩
  | reject errors => exact ⟨errors.kind, errors.message, errors.production, errors.distance⟩
  | fault fault => rfl
  | cut allowed => exact allowed.elim

/-- Rows of digits in brackets, which may hold rows again. -/
def brackets : Grammar :=
  ⟨[("row", .named "row" (.seq3 (.lit 91) (.many (.firstOf [.ref "row", .digit])) (.lit 93)))]⟩

/-- A row that is not closed, alone and on the third line of a source: both runs report the end of
the input as far from their start, though under `furthest` the cursors compared differ. -/
theorem parser_verdict_of_rest_eq_brackets :
    brackets.Every (Term.RefusesWith fun _ => False) ∧
    (Term.ref "row").Every (Term.RefusesWith fun _ => False) ∧
    ∃ error error',
      (brackets.parser (.ref "row")
        (Input.ofSymbols ['[', '1', '[', ']', '2'] { errorPolicy := .furthest })).verdict =
          .reject error ∧
      (brackets.parser (.ref "row")
        ((Input.ofSymbols ['a', '\n', '\n', 'b', '[', '1', '[', ']', '2']
          { errorPolicy := .furthest }).advance 4)).verdict = .reject error' ∧
      error.location = ⟨5, 1, 6⟩ ∧ error'.location = ⟨9, 3, 7⟩ ∧
      error.production = "row" ∧ error.message = error'.message ∧
      error.location.cursor - 0 = error'.location.cursor - 4 := by
  have choice : (Term.firstOf [.ref "row", .digit]).Every (Term.RefusesWith fun _ => False) :=
    .pair rfl trivial (.leaf rfl trivial) (.leaf rfl trivial)
  have row : (Term.seq3 (.lit 91) (.many (.firstOf [.ref "row", .digit])) (.lit 93)).Every
      (Term.RefusesWith fun _ => False) := by
    refine .intro trivial ?_
    simp only [Term.parts, List.forall_mem_cons]
    exact ⟨.leaf rfl trivial, .single rfl trivial choice, .leaf rfl trivial,
      List.forall_mem_nil _⟩
  have rules : brackets.Every (Term.RefusesWith fun _ => False) :=
    every_of_forall_mem (List.forall_mem_singleton.mpr (.single rfl trivial row))
  have whole : (Term.ref "row").Every (Term.RefusesWith fun _ => False) := .leaf rfl trivial
  have agree := parser_verdict_of_rest_eq rules whole
    (Input.ofSymbols ['[', '1', '[', ']', '2'] { errorPolicy := .furthest })
    ((Input.ofSymbols ['a', '\n', '\n', 'b', '[', '1', '[', ']', '2']
      { errorPolicy := .furthest }).advance 4) rfl rfl
  exact ⟨rules, whole, _, _, rfl, rfl, rfl, rfl, rfl, agree.2.1, agree.2.2.2⟩

end Grammar

end GrammarKit
