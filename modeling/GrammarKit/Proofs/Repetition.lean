import GrammarKit.Proofs.Position
import GrammarKit.Proofs.Recognition
/-!
# Repetitions that need a first run

A repetition of a parser that only moves forward unrolls: its verdict is that of a first run and a
repetition from there (`Parser.verdict_foldl_unroll`), whatever its bound, its records and its count
of runs so far. Against this law the repetitions that need a first run are measured
(`Parser.verdict_of_first_run`). They reject with the error of the first run, and after a first run
that moves they are the repetitions that need none. A first run that stays in place is another
matter. It ends a repetition that needs none, but one that needs it starts over from the same place,
so the run is made and counted a second time.
-/

namespace GrammarKit

open Input (Ahead)

/-- A term over a grammar only moves forward. -/
theorem Grammar.forward_parser (grammar : Grammar) (term : Term) :
    (grammar.parser term).Forward := by
  rintro input rest ⟨value, accepted⟩
  exact term_accept_ahead accepted

namespace Parser

variable {α σ : Type} {parser : Parser α} {input : Input}

/-! ## Unrolling -/

/-- What bounded runs are folded to depends neither on a bound with room for every symbol left nor
on the records and runs so far. -/
theorem verdict_foldUpTo_congr (forward : parser.Forward) (f : σ → α → σ) {bound bound' : Nat}
    (enough : input.remaining < bound) (enough' : input.remaining < bound')
    (records records' : List Record) (state : σ) (runs runs' : Nat) :
    (parser.foldUpTo f bound records state runs input).verdict.map Prod.fst =
      (parser.foldUpTo f bound' records' state runs' input).verdict.map Prod.fst := by
  induction bound generalizing bound' records records' state runs runs' input with
  | zero => omega
  | succ bound ih =>
    obtain ⟨bound', rfl⟩ : ∃ fewer, bound' = fewer + 1 := ⟨bound' - 1, by omega⟩
    rw [verdict_foldUpTo_succ, verdict_foldUpTo_succ]
    cases decided : (parser input).verdict with
    | accept value rest =>
      by_cases same : rest.cursor = input.cursor
      · simp only [same, ↓reduceIte, Verdict.map]
      · -- A run that moves uses up a symbol, so what is left of both bounds has room again.
        have ahead : Ahead input rest := forward ⟨value, decided⟩
        have trade := ahead.cursor_add_remaining
        have onwards := ahead.cursor_le
        simp only [same, ↓reduceIte]
        exact ih (by omega) (by omega) _ _ _ _ _
    | reject | fault => rfl

/-- A repetition is a first run and, after a run that moves, a repetition from there. -/
theorem verdict_foldl_unroll (forward : parser.Forward) (state : σ) (f : σ → α → σ)
    (input : Input) :
    (parser.foldl state f input).verdict =
      match (parser input).verdict with
      | .accept value rest =>
        if rest.cursor = input.cursor then .accept (f state value) rest
        else (parser.foldl (f state value) f rest).verdict
      | .reject _ => .accept state input
      | .fault fault => .fault fault := by
  rw [foldl, verdict_map, foldRuns, verdict_foldUpTo_succ]
  cases decided : (parser input).verdict with
  | accept value rest =>
    by_cases same : rest.cursor = input.cursor
    · simp only [same, ↓reduceIte, Verdict.map]
    · have ahead : Ahead input rest := forward ⟨value, decided⟩
      have trade := ahead.cursor_add_remaining
      have onwards := ahead.cursor_le
      simp only [same, ↓reduceIte]
      rw [foldl, verdict_map, foldRuns]
      exact verdict_foldUpTo_congr forward f (by omega) (Nat.lt_succ_self _) _ _ _ _ _
  | reject | fault => rfl

/-- After a first run that moves, a repetition goes on from there. -/
theorem verdict_foldl_of_moved (forward : parser.Forward) (state : σ) (f : σ → α → σ) {value : α}
    {rest : Input} (accepted : (parser input).verdict = .accept value rest)
    (moved : rest.cursor ≠ input.cursor) :
    (parser.foldl state f input).verdict = (parser.foldl (f state value) f rest).verdict := by
  rw [verdict_foldl_unroll forward, accepted]
  simp only [moved, ↓reduceIte]

/-- A first run in place is the only one. -/
theorem verdict_foldl_of_idle (forward : parser.Forward) (state : σ) (f : σ → α → σ) {value : α}
    (accepted : (parser input).verdict = .accept value input) :
    (parser.foldl state f input).verdict = .accept (f state value) input := by
  rw [verdict_foldl_unroll forward, accepted]
  simp only [↓reduceIte]

/-! ## The first run -/

/-- Repetitions that need a first run reject with its error and, once it has moved, are those that
need none. A first run that stays in place is made twice by the ones and once by the others, which
shows in the values but not in what is left. -/
theorem verdict_of_first_run (forward : parser.Forward) (state : σ) (f : σ → α → σ)
    (input : Input) :
    match (parser input).verdict with
    | .reject error =>
      (parser.many1 input).verdict = .reject error ∧ (parser.any1 input).verdict = .reject error ∧
        (parser.foldl1 state f input).verdict = .reject error
    | .accept value rest =>
      (parser.any1 input).verdict = (parser.any input).verdict ∧
      (rest.cursor ≠ input.cursor →
        (parser.many1 input).verdict = (parser.many input).verdict ∧
          (parser.foldl1 state f input).verdict = (parser.foldl state f input).verdict) ∧
      (rest.cursor = input.cursor →
        (parser.many input).verdict = .accept #[value] input ∧
          (parser.many1 input).verdict = .accept #[value, value] input ∧
          (parser.foldl state f input).verdict = .accept (f state value) input ∧
          (parser.foldl1 state f input).verdict = .accept (f (f state value) value) input)
    | .fault fault =>
      (parser.many1 input).verdict = .fault fault ∧ (parser.any1 input).verdict = .fault fault ∧
        (parser.foldl1 state f input).verdict = .fault fault := by
  unfold many many1 any1 any foldl1
  simp only [Outcome.verdict_andThen]
  cases decided : (parser input).verdict with
  | reject | fault => exact ⟨rfl, rfl, rfl⟩
  | accept value rest =>
    by_cases same : rest.cursor = input.cursor
    · obtain rfl : rest = input := Ahead.eq_of_cursor_eq (forward ⟨value, decided⟩) same
      have once {τ : Type} (state : τ) (f : τ → α → τ) :
          (parser.foldl state f rest).verdict = .accept (f state value) rest :=
        verdict_foldl_of_idle forward state f decided
      exact ⟨rfl, fun moved => absurd rfl moved, fun _ =>
        ⟨once #[] _, once #[value] _, once state f, once (f state value) f⟩⟩
    · have onwards {τ : Type} (state : τ) (f : τ → α → τ) :
          (parser.foldl state f input).verdict = (parser.foldl (f state value) f rest).verdict :=
        verdict_foldl_of_moved forward state f decided same
      refine ⟨(onwards () _).symm, fun _ => ⟨(onwards #[] _).symm, (onwards state f).symm⟩, ?_⟩
      exact fun idle => absurd idle same

/-- A letter that may be missing. -/
def letterOrNot : Parser Host := Grammar.parser {} (.optional (.lit 97) .unit)

/-- With the letter there a needed first run makes no difference; with the letter missing it is
counted twice. -/
theorem verdict_of_first_run_letterOrNot :
    letterOrNot.Forward ∧
    (letterOrNot.many1 (.ofSymbols ['a', 'b'] {})).verdict =
      (letterOrNot.many (.ofSymbols ['a', 'b'] {})).verdict ∧
    (letterOrNot.many (.ofSymbols ['b'] {})).verdict =
      .accept #[.unit] (.ofSymbols ['b'] {}) ∧
    (letterOrNot.many1 (.ofSymbols ['b'] {})).verdict =
      .accept #[.unit, .unit] (.ofSymbols ['b'] {}) := by
  have forward : letterOrNot.Forward := Grammar.forward_parser {} (.optional (.lit 97) .unit)
  have there := verdict_of_first_run forward 0 (fun runs _ => runs + 1) (.ofSymbols ['a', 'b'] {})
  have missing := verdict_of_first_run forward 0 (fun runs _ => runs + 1) (.ofSymbols ['b'] {})
  have once := missing.2.2 rfl
  exact ⟨forward, (there.2.1 (Nat.succ_ne_zero 0)).1, once.1, once.2.1⟩

/-- One or more runs are not always what zero or more runs are, even where the parser accepts: a
value accepted in place is collected twice by the one and once by the other. -/
theorem not_many1_eq_many_of_accept :
    ¬ ∀ (parser : Parser Host) (input : Input) (value : Host) (rest : Input),
      (parser input).verdict = .accept value rest →
        (parser.many1 input).verdict = (parser.many input).verdict := by
  intro alike
  have same := alike (.pure (.int 1)) (.ofSymbols [] {}) (.int 1) (.ofSymbols [] {}) rfl
  have values : (#[.int 1, .int 1] : Array Host) = #[.int 1] := (Verdict.accept.inj same).1
  exact absurd (congrArg Array.size values) (by decide)

end Parser

end GrammarKit
