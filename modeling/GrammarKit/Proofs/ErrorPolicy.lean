import GrammarKit.Proofs.Input
import GrammarKit.Proofs.Simulation
/-!
# What the error policy decides

The policy of an input says which error a choice reports. It has no say in what is accepted: under
both policies a parser accepts the same value and leaves the same rest, and where it rejects, the
error of the policy `furthest` is at least as far into the source as that of the policy `last`. The
second part carries through nested choices because a choice under `furthest` never reports an error
before that of its last branch (`ErrorPolicy.cursor_le_pick`).
-/

namespace GrammarKit

/-- The input with another policy for errors. -/
def Input.withPolicy (policy : ErrorPolicy) (input : Input) : Input :=
  { input with surroundings := { input.surroundings with errorPolicy := policy } }

/-- The error that the policy `furthest` picks is not before the newest one. -/
theorem ErrorPolicy.cursor_le_pick (failed : Option ParseError) (error : ParseError) :
    error.location.cursor ≤ (furthest.pick failed error).location.cursor := by
  cases failed with
  | none => exact Int.le_refl _
  | some kept =>
    unfold pick
    by_cases earlier : error.location.before kept.location = true
    · have before : error.location.cursor < kept.location.cursor := by
        simpa [Location.before] using earlier
      simp only [earlier, ↓reduceIte]
      omega
    · simp only [earlier, Bool.false_eq_true, ↓reduceIte, Int.le_refl]

namespace Simulation

/-- The runs under the two policies: inputs differ in the policy only, and errors may be further
into the source in the second run. -/
def policies : Simulation where
  onInput left right :=
    left.surroundings.errorPolicy = .last ∧ right = left.withPolicy .furthest
  onError left right := left.location.cursor ≤ right.location.cursor
  cutShort := False
  peek := by
    rintro left right ⟨-, rfl⟩
    rfl
  remaining := by
    rintro left right ⟨-, rfl⟩
    rfl
  past := by
    rintro left right symbol ⟨policy, rfl⟩ -
    refine ⟨by simpa using policy, ?_⟩
    unfold Input.past
    split <;> rfl
  moved := by
    rintro left right left' right' ⟨-, rfl⟩ ⟨-, rfl⟩
    exact Iff.rfl
  fail := by
    rintro left right kind args ⟨-, rfl⟩
    exact Int.le_refl _
  pick := by
    rintro left right failed failed' error error' ⟨policy, rfl⟩ - errors
    rw [policy]
    exact Int.le_trans errors (ErrorPolicy.cursor_le_pick failed' error')
  within := by
    intro error error' name errors
    rwa [ParseError.location_within, ParseError.location_within]

end Simulation

namespace Grammar

/-- Under both policies a term over a grammar accepts the same value and leaves the same rest or
stops with the same fault; where it rejects, the policy `furthest` reports an error that is not
before the one of the policy `last`. -/
theorem parser_verdict_of_policies (grammar : Grammar) (term : Term) (input : Input) :
    match (grammar.parser term (input.withPolicy (.ofWord "last"))).verdict,
        (grammar.parser term (input.withPolicy (.ofWord "furthest"))).verdict with
    | .accept value rest, .accept value' rest' =>
      value' = value ∧ rest' = rest.withPolicy (.ofWord "furthest")
    | .reject error, .reject error' => error.location.cursor ≤ error'.location.cursor
    | .fault fault, .fault fault' => fault' = fault
    | _, _ => False := by
  have refusals := Term.every_refusesWith fun error : ParseError =>
    show Simulation.policies.onError error error from Int.le_refl _
  have inputs : Simulation.policies.onInput (input.withPolicy (.ofWord "last"))
      (input.withPolicy (.ofWord "furthest")) := ⟨rfl, rfl⟩
  have related : Simulation.policies.OnParser (grammar.parser term) (grammar.parser term) :=
    Simulation.grammarParser (fun name body found => refusals body) (refusals term)
  have related := related inputs
  generalize (grammar.parser term (input.withPolicy (.ofWord "last"))).verdict = last,
    (grammar.parser term (input.withPolicy (.ofWord "furthest"))).verdict = furthest at related ⊢
  cases related with
  | accept value rests => exact ⟨rfl, rests.2⟩
  | reject errors => exact errors
  | fault fault => rfl
  | cut allowed => exact allowed.elim

end Grammar

end GrammarKit
