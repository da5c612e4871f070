import GrammarKit.Parser.Repeat
/-!
# Verdicts apart from records

What a combinator decides depends on what its parsers decide and never on what they record. Each
equation here gives the verdict of a combinator from the verdicts of its parsers; the theory of
verdicts goes through these equations and leaves the records alone.
-/

namespace GrammarKit

variable {α β σ : Type}

/-- The verdict with the image of its value. -/
def Verdict.map (f : α → β) : Verdict α → Verdict β
  | .accept value rest => .accept (f value) rest
  | .reject error => .reject error
  | .fault problem => .fault problem

namespace Outcome

/-- Going on after an accepted value decides what comes next, or what was decided before. -/
theorem verdict_andThen (outcome : Outcome α) (next : α → Input → Outcome β) :
    (outcome.andThen next).verdict =
      match outcome.verdict with
      | .accept value rest => (next value rest).verdict
      | .reject error => .reject error
      | .fault fault => .fault fault := by
  unfold andThen
  cases outcome.verdict <;> rfl

/-- Going on after an error decides what comes next, or what was decided before. -/
theorem verdict_orElse (outcome : Outcome α) (next : ParseError → Outcome α) :
    (outcome.orElse next).verdict =
      match outcome.verdict with
      | .accept value rest => .accept value rest
      | .reject error => (next error).verdict
      | .fault fault => .fault fault := by
  unfold orElse
  cases decided : outcome.verdict with
  | accept | fault => exact decided
  | reject => rfl

end Outcome

/-- A name does not move an error. -/
theorem ParseError.location_within (name : String) (error : ParseError) :
    (error.within name).location = error.location := by
  unfold within
  split <;> rfl

/-- A policy picks the newest error or the one kept so far. -/
theorem ErrorPolicy.pick_eq_or (policy : ErrorPolicy) (failed : Option ParseError)
    (error : ParseError) :
    policy.pick failed error = error ∨ failed = some (policy.pick failed error) := by
  cases policy with
  | last => exact .inl rfl
  | furthest =>
    cases failed with
    | none => exact .inl rfl
    | some kept =>
      unfold pick
      by_cases earlier : error.location.before kept.location = true
      · exact .inr (by simp only [earlier, ↓reduceIte])
      · exact .inl (by simp only [earlier, Bool.false_eq_true, ↓reduceIte])

/-- A policy picks corresponding errors among corresponding ones, when these come in the same
order. -/
theorem ErrorPolicy.pick_rel {related : ParseError → ParseError → Prop}
    (ordered : ∀ {error error' kept kept'}, related error error' → related kept kept' →
      error.location.before kept.location = error'.location.before kept'.location)
    (policy : ErrorPolicy) {failed failed' : Option ParseError} {error error' : ParseError}
    (kept : Option.Rel related failed failed') (errors : related error error') :
    related (policy.pick failed error) (policy.pick failed' error') := by
  cases policy with
  | last => exact errors
  | furthest =>
    cases kept with
    | none => exact errors
    | some kepts =>
      simp only [pick, ordered errors kepts]
      split
      · exact kepts
      · exact errors

namespace Parser

/-- An image decides as its parser does. -/
theorem verdict_map (f : α → β) (parser : Parser α) (input : Input) :
    (map f parser input).verdict = (parser input).verdict.map f := by
  rw [map, Outcome.verdict_andThen]
  cases (parser input).verdict <;> rfl

/-- A negation accepts what is rejected and rejects what is accepted. -/
theorem verdict_not [Shown α] (parser : Parser α) (input : Input) :
    (parser.not input).verdict =
      match (parser input).verdict with
      | .accept value _ =>
        .reject (input.fail ErrorKind.unexpectedSuccess [Shown.display value])
      | .reject _ => .accept () input
      | .fault fault => .fault fault := by
  unfold Parser.not
  obtain ⟨records, verdict⟩ := parser input
  cases verdict <;> rfl

/-- A name changes nothing but the error. -/
theorem verdict_named (name : String) (parser : Parser α) (input : Input) :
    (named name parser input).verdict =
      match (parser input).verdict with
      | .accept value rest => .accept value rest
      | .reject error => .reject (error.within name)
      | .fault fault => .fault fault := by
  unfold named
  obtain ⟨records, verdict⟩ := parser input
  cases verdict <;> rfl

/-- A repetition ends with the first run that rejects or does not move. -/
theorem verdict_foldUpTo_succ (parser : Parser α) (f : σ → α → σ) (bound : Nat)
    (records : List Record) (state : σ) (runs : Nat) (input : Input) :
    (parser.foldUpTo f (bound + 1) records state runs input).verdict =
      match (parser input).verdict with
      | .accept value rest =>
        if rest.cursor = input.cursor then .accept (f state value, runs + 1) rest
        else (parser.foldUpTo f bound (records ++ (parser input).records) (f state value)
          (runs + 1) rest).verdict
      | .reject _ => .accept (state, runs) input
      | .fault fault => .fault fault := by
  rw [foldUpTo]
  obtain ⟨written, verdict⟩ := parser input
  cases verdict with
  | accept value rest =>
    by_cases idle : rest.cursor = input.cursor
    · simp only [idle, ↓reduceIte]
    · simp only [idle, ↓reduceIte]
  | reject | fault => rfl

end Parser

end GrammarKit
