import GrammarKit.Proofs.Input
import GrammarKit.Proofs.Simulation
/-!
# Where a run leaves off

A run only ever moves forward. Whatever a term accepts, it leaves an input ahead of the one it
started from, and the errors it makes are located at such inputs (`Grammar.term_reject_ahead`),
unless a conversion makes up a location of its own. Since moving forward keeps line and column in
step with the cursor, both laws hold of every input that parsing a source comes to.
-/

namespace GrammarKit

open Input (Ahead)

/-- Whether an error is located at an input ahead of a start. -/
def ParseError.LocatedAhead (start : Input) (error : ParseError) : Prop :=
  ∃ place, Ahead start place ∧ error.location = place.location

namespace Simulation

/-- A run beside itself: its inputs stay ahead of a start and its errors keep a condition that every
error at an input ahead has and that naming an error keeps. -/
def alongside (start : Input) (condition : ParseError → Prop)
    (failing : ∀ {place} kind args, Ahead start place → condition (place.fail kind args))
    (naming : ∀ {error} name, condition error → condition (error.within name)) : Simulation where
  onInput left right := left = right ∧ Ahead start left
  onError left right := left = right ∧ condition left
  cutShort := False
  peek := by
    rintro left right ⟨rfl, -⟩
    rfl
  remaining := by
    rintro left right ⟨rfl, -⟩
    rfl
  past := by
    rintro left right symbol ⟨rfl, ahead⟩ found
    exact ⟨rfl, ahead.trans (.past found)⟩
  moved := by
    rintro left right left' right' ⟨rfl, -⟩ ⟨rfl, -⟩
    exact Iff.rfl
  fail := by
    rintro left right kind args ⟨rfl, ahead⟩
    exact ⟨rfl, failing kind args ahead⟩
  pick := by
    rintro left right failed failed' error error' ⟨rfl, -⟩ kept ⟨rfl, holds⟩
    obtain rfl : failed = failed' := by
      cases kept with
      | none => rfl
      | some errors => rw [errors.1]
    refine ⟨rfl, ?_⟩
    rcases left.surroundings.errorPolicy.pick_eq_or failed error with newest | older
    · rwa [newest]
    · rw [older] at kept
      cases kept with
      | some errors => exact errors.2
  within := by
    rintro error error' name ⟨rfl, holds⟩
    exact ⟨rfl, naming name holds⟩

/-- A run beside itself with no condition on its errors. -/
def ahead (start : Input) : Simulation :=
  alongside start (fun _ => True) (fun _ _ _ => trivial) (fun _ _ => trivial)

/-- A run beside itself whose errors are located ahead of the start. -/
def located (start : Input) : Simulation :=
  alongside start (ParseError.LocatedAhead start)
    (fun _ _ ahead => ⟨_, ahead, rfl⟩)
    (fun name located => by rwa [ParseError.LocatedAhead, ParseError.location_within])

end Simulation

namespace Grammar

variable {grammar : Grammar} {term : Term} {input rest : Input} {value : Host} {error : ParseError}

/-- What a term accepts at any depth of rules leaves an input ahead. -/
theorem term_accept_ahead {depth : Nat}
    (accepted : (term.parser (grammar.ruleParser depth) input).verdict = .accept value rest) :
    Ahead input rest := by
  have refusals := Term.every_refusesWith fun error : ParseError =>
    show (Simulation.ahead input).onError error error from ⟨rfl, trivial⟩
  have rules : grammar.Every _ := fun name body found => refusals body
  have inputs : (Simulation.ahead input).onInput input input := ⟨rfl, .refl input⟩
  have related := Simulation.term (Simulation.ruleParser rules depth) (refusals term) inputs
  rw [accepted] at related
  cases related with
  | accept value rests => exact rests.2

/-- Where a term rejects at any depth of rules, its error is located at an input ahead, when no
conversion makes up errors. -/
theorem term_reject_ahead {depth : Nat} (rules : grammar.Every (Term.RefusesWith fun _ => False))
    (refusals : term.Every (Term.RefusesWith fun _ => False))
    (rejected : (term.parser (grammar.ruleParser depth) input).verdict = .reject error) :
    error.LocatedAhead input := by
  have widen {term : Term} (refusals : term.Every (Term.RefusesWith fun _ => False)) :
      term.Every (Term.RefusesWith fun error => (Simulation.located input).onError error error) :=
    refusals.mono (Term.RefusesWith.mono fun _ => False.elim)
  have rules : grammar.Every _ := fun name body found => widen (rules name body found)
  have inputs : (Simulation.located input).onInput input input := ⟨rfl, .refl input⟩
  have related := Simulation.term (Simulation.ruleParser rules depth) (widen refusals) inputs
  rw [rejected] at related
  cases related with
  | reject errors => exact errors.2

end Grammar

namespace Input

variable {symbols : List Char} {surroundings : Surroundings} {start input : Input}

/-- The inputs that parsing a source comes to: its start, and what a term over any rules, run to any
depth, leaves of such an input. -/
inductive Reachable (symbols : List Char) (surroundings : Surroundings) : Input → Prop where
  /-- The start of the source. -/
  | start : Reachable symbols surroundings (ofSymbols symbols surroundings)
  /-- What is left of an input after a term. -/
  | parse (grammar : Grammar) (term : Term) (depth : Nat) {input rest : Input} {value : Host}
      (reachable : Reachable symbols surroundings input)
      (accepted : (term.parser (grammar.ruleParser depth) input).verdict = .accept value rest) :
      Reachable symbols surroundings rest

/-- Parsing a source comes to inputs ahead of its start only. -/
theorem Reachable.ahead (reachable : Reachable symbols surroundings input) :
    Ahead (ofSymbols symbols surroundings) input := by
  induction reachable with
  | start => exact .refl _
  | parse grammar term depth reachable accepted ih =>
    exact ih.trans (Grammar.term_accept_ahead accepted)

/-- Parsing a source comes to placed inputs only. -/
theorem Reachable.placed (reachable : Reachable symbols surroundings input) : input.Placed :=
  (placed_ofSymbols symbols surroundings).of_ahead reachable.ahead

/-- A placed input counts its remaining symbols exactly: none is cut off at the end. -/
theorem Placed.cursor_add_remaining (placed : input.Placed) :
    input.cursor + input.remaining = input.symbols.size := by
  have inside := placed.inside
  unfold remaining
  omega

end Input

namespace Grammar

/-- From every input that parsing a source comes to, a term leaves an input of the same source and
surroundings, not before the one it started from, inside the source and located by its cursor; and
its errors are located so as well, when no conversion makes up errors. At every such input the
cursor is inside the source, and on a symbol unless nothing is left. -/
theorem parser_keeps_place {grammar : Grammar} {term : Term}
    (rules : grammar.Every (Term.RefusesWith fun _ => False))
    (refusals : term.Every (Term.RefusesWith fun _ => False)) {symbols : List Char}
    {surroundings : Surroundings} {input : Input}
    (reachable : Input.Reachable symbols surroundings input) :
    (∀ value rest, (grammar.parser term input).verdict = .accept value rest →
      rest.symbols = input.symbols ∧ rest.surroundings = input.surroundings ∧
        input.cursor ≤ rest.cursor ∧ rest.cursor ≤ input.symbols.size ∧
        rest.location = Location.after (input.symbols.toList.take rest.cursor)) ∧
    (∀ error, (grammar.parser term input).verdict = .reject error →
      ∃ cursor, input.cursor ≤ cursor ∧ cursor ≤ input.symbols.size ∧
        error.location = Location.after (input.symbols.toList.take cursor)) ∧
    input.cursor + input.remaining = input.symbols.size ∧
    (input.isEmpty = false → input.cursor < input.symbols.size) := by
  have placed := reachable.placed
  refine ⟨?_, ?_, placed.cursor_add_remaining, ?_⟩
  · intro value rest accepted
    have ahead : Ahead input rest := term_accept_ahead accepted
    obtain ⟨inside, located⟩ := placed.of_ahead ahead
    rw [ahead.symbols_eq] at inside located
    exact ⟨ahead.symbols_eq, ahead.surroundings_eq, ahead.cursor_le, inside, located⟩
  · intro error rejected
    obtain ⟨place, ahead, same⟩ := term_reject_ahead rules refusals rejected
    obtain ⟨inside, located⟩ := placed.of_ahead ahead
    rw [ahead.symbols_eq] at inside located
    exact ⟨place.cursor, ahead.cursor_le, inside, same.trans located⟩
  · intro left
    have some : input.remaining ≠ 0 := by simpa [Input.isEmpty] using left
    have exact := placed.cursor_add_remaining
    omega

/-- Rows of one letter, on lines of their own. -/
def rows : Grammar :=
  ⟨[("row", .seq2 (.lit 97) (.optional (.right (.lit 10) (.ref "row")) .unit))]⟩

/-- The rows of a source with a letter too many: the error is on the second line. -/
theorem parser_keeps_place_rows :
    rows.Every (Term.RefusesWith fun _ => False) ∧
    (Term.entireInput (.ref "row")).Every (Term.RefusesWith fun _ => False) ∧
    ∃ error, (rows.parser (.entireInput (.ref "row"))
        (Input.ofSymbols ['a', '\n', 'a', 'b'] {})).verdict = .reject error ∧
      error.location = ⟨3, 2, 2⟩ ∧
      ∃ cursor ≤ 4, error.location = Location.after (['a', '\n', 'a', 'b'].take cursor) := by
  have next : (Term.right (.lit 10) (.ref "row")).Every (Term.RefusesWith fun _ => False) :=
    .pair rfl trivial (.leaf rfl trivial) (.leaf rfl trivial)
  have body : rows.Every (Term.RefusesWith fun _ => False) :=
    every_of_forall_mem (List.forall_mem_singleton.mpr
      (.pair rfl trivial (.leaf rfl trivial) (.single rfl trivial next)))
  have whole : (Term.entireInput (.ref "row")).Every (Term.RefusesWith fun _ => False) :=
    .single rfl trivial (.leaf rfl trivial)
  have rejected := (parser_keeps_place body whole
    (.start : Input.Reachable ['a', '\n', 'a', 'b'] {} _)).2.1 _ rfl
  refine ⟨body, whole, _, rfl, rfl, ?_⟩
  obtain ⟨cursor, -, inside, located⟩ := rejected
  exact ⟨cursor, inside, located⟩

end Grammar

end GrammarKit
