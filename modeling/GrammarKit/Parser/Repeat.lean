import GrammarKit.Parser.Basic
/-!
# Repetition

Repetitions go on until the parser rejects. A parser that accepts without consuming anything ends
its repetition too, after that one run has been counted. Every other run consumes a symbol, so the
number of symbols left bounds the number of runs.
-/

namespace GrammarKit.Parser

variable {α σ : Type}

/-- Folds the values of repeated runs into a state and counts the runs. The first argument bounds
the runs; `records` are those written so far. -/
def foldUpTo (parser : Parser α) (f : σ → α → σ) :
    Nat → List Record → σ → Nat → Input → Outcome (σ × Nat)
  | 0, records, _, _, _ => ⟨records, .fault .endless⟩
  | bound + 1, records, state, runs, input =>
    let outcome := parser input
    match outcome.verdict with
    | .reject _ => ⟨records ++ outcome.records, .accept (state, runs) input⟩
    | .fault fault => ⟨records ++ outcome.records, .fault fault⟩
    | .accept value rest =>
      if rest.cursor = input.cursor then
        ⟨records ++ outcome.records, .accept (f state value, runs + 1) rest⟩
      else foldUpTo parser f bound (records ++ outcome.records) (f state value) (runs + 1) rest

/-- Folds the values of repeated runs into a state and counts the runs. -/
def foldRuns (parser : Parser α) (f : σ → α → σ) (state : σ) : Parser (σ × Nat) := fun input =>
  foldUpTo parser f (input.remaining + 1) [] state 0 input

/-- Folds the values of zero or more runs into a state. -/
def foldl (parser : Parser α) (state : σ) (f : σ → α → σ) : Parser σ :=
  map Prod.fst (foldRuns parser f state)

/-- Folds the values of one or more runs into a state. -/
def foldl1 (parser : Parser α) (state : σ) (f : σ → α → σ) : Parser σ := fun input =>
  (parser input).andThen fun value rest => foldl parser (f state value) f rest

/-- Folds the values of zero or more runs into the value of a first parser. -/
def foldlFrom (parser : Parser α) (first : Parser σ) (f : σ → α → σ) : Parser σ := fun input =>
  (first input).andThen fun state rest => foldl parser state f rest

/-- Collects the values of zero or more runs. -/
def many (parser : Parser α) : Parser (Array α) := foldl parser #[] Array.push

/-- Collects the values of one or more runs. -/
def many1 (parser : Parser α) : Parser (Array α) := fun input =>
  (parser input).andThen fun value rest => foldl parser #[value] Array.push rest

/-- Zero or more runs, without their values. -/
def any (parser : Parser α) : Parser Unit := foldl parser () fun _ _ => ()

/-- One or more runs, without their values. -/
def any1 (parser : Parser α) : Parser Unit := fun input =>
  (parser input).andThen fun _ rest => any parser rest

/-- Collects the values of exactly as many runs as asked for. -/
def iterate (parser : Parser α) : Nat → Parser (List α)
  | 0 => pure []
  | count + 1 => fun input =>
    (parser input).andThen fun value rest => map (value :: ·) (iterate parser count) rest

end GrammarKit.Parser
