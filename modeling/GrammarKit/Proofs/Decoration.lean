import GrammarKit.Proofs.Simulation
/-!
# What catalogs and tracing decide

Besides the policy for errors, the surroundings of an input hold the messages of errors and whether
named parsers are recorded. These two only decorate a parse: whatever they are, a parser accepts the
same value and leaves the same rest, or rejects with an error of the same kind at the same place
under the same name. The message is all that may differ, and it does so only where the two catalogs
have different templates for the kind of the error, since nothing ever reads a message again.
-/

namespace GrammarKit

/-- The input with another catalog and another say about tracing. -/
def Input.decorated (catalog : Catalog) (trace : Bool) (input : Input) : Input :=
  { input with surroundings := { input.surroundings with catalog, trace } }

/-- Catalogs with the same template for a kind give the same messages of that kind. -/
theorem Catalog.message_eq {catalog catalog' : Catalog} {kind : String}
    (same : catalog.template? kind = catalog'.template? kind) (args : List Host) :
    catalog.message kind args = catalog'.message kind args := by
  rw [message, message, same]

/-- Whether two errors are the same but for their messages, which agree as well where two catalogs
have the same template for the kind. -/
structure ParseError.SameUnder (catalog catalog' : Catalog) (error error' : ParseError) : Prop where
  /-- The kinds agree. -/
  kind : error.kind = error'.kind
  /-- The places agree. -/
  location : error.location = error'.location
  /-- The productions agree. -/
  production : error.production = error'.production
  /-- The messages agree where the catalogs do. -/
  message : catalog.template? error.kind = catalog'.template? error.kind →
    error.message = error'.message

namespace ParseError.SameUnder

variable {catalog catalog' : Catalog} {error error' kept kept' : ParseError}

/-- An error is the same as itself. -/
theorem refl (error : ParseError) : SameUnder catalog catalog' error error :=
  ⟨rfl, rfl, rfl, fun _ => rfl⟩

/-- Errors made at the same cursor are the same. -/
theorem fail (input : Input) (trace trace' : Bool) (kind : String) (args : List Host) :
    SameUnder catalog catalog' ((input.decorated catalog trace).fail kind args)
      ((input.decorated catalog' trace').fail kind args) where
  kind := rfl
  location := rfl
  production := rfl
  message same := Catalog.message_eq same args

/-- A name keeps errors the same. -/
theorem within (name : String) (same : SameUnder catalog catalog' error error') :
    SameUnder catalog catalog' (error.within name) (error'.within name) := by
  obtain ⟨kind, location, production, message⟩ := same
  unfold ParseError.within
  rw [← production]
  split
  · exact ⟨kind, location, rfl, message⟩
  · exact ⟨kind, location, production, message⟩

/-- Errors that are the same come in the same order. -/
theorem before_eq (errors : SameUnder catalog catalog' error error')
    (kepts : SameUnder catalog catalog' kept kept') :
    error.location.before kept.location = error'.location.before kept'.location := by
  rw [errors.location, kepts.location]

end ParseError.SameUnder

namespace Simulation

/-- The runs under two decorations: inputs differ in these only, and errors in their messages. -/
def decorations (catalog catalog' : Catalog) (trace trace' : Bool) : Simulation where
  onInput left right :=
    ∃ input : Input, left = input.decorated catalog trace ∧ right = input.decorated catalog' trace'
  onError := ParseError.SameUnder catalog catalog'
  cutShort := False
  peek := by
    rintro left right ⟨input, rfl, rfl⟩
    rfl
  remaining := by
    rintro left right ⟨input, rfl, rfl⟩
    rfl
  past := by
    rintro left right symbol ⟨input, rfl, rfl⟩ -
    refine ⟨input.past symbol, ?_, ?_⟩
    · unfold Input.past Input.decorated
      split <;> rfl
    · unfold Input.past Input.decorated
      split <;> rfl
  moved := by
    rintro left right left' right' ⟨input, rfl, rfl⟩ ⟨input', rfl, rfl⟩
    exact Iff.rfl
  fail := by
    rintro left right kind args ⟨input, rfl, rfl⟩
    exact .fail input trace trace' kind args
  pick := by
    rintro left right failed failed' error error' ⟨input, rfl, rfl⟩ kept errors
    exact ErrorPolicy.pick_rel ParseError.SameUnder.before_eq input.surroundings.errorPolicy kept
      errors
  within name errors := errors.within name

end Simulation

namespace Grammar

/-- Whatever the catalogs and whether or not tracing is on, a term over a grammar accepts the same
value and leaves the same rest, rejects with an error of the same kind, place and production, or
stops with the same fault. The messages of errors agree as well where the catalogs have the same
template for the kind, so altogether when the catalogs are the same. -/
theorem parser_verdict_of_decorations (grammar : Grammar) (term : Term) (input : Input)
    (catalog catalog' : Catalog) (trace trace' : Bool) :
    match (grammar.parser term (input.decorated catalog trace)).verdict,
        (grammar.parser term (input.decorated catalog' trace')).verdict with
    | .accept value rest, .accept value' rest' =>
      value = value' ∧ rest.decorated catalog' trace' = rest'
    | .reject error, .reject error' =>
      error.kind = error'.kind ∧ error.location = error'.location ∧
        error.production = error'.production ∧
        (catalog.template? error.kind = catalog'.template? error.kind →
          error.message = error'.message)
    | .fault fault, .fault fault' => fault = fault'
    | _, _ => False := by
  let S := Simulation.decorations catalog catalog' trace trace'
  have refusals := Term.every_refusesWith fun error : ParseError =>
    show S.onError error error from .refl error
  have related : S.OnParser (grammar.parser term) (grammar.parser term) :=
    Simulation.grammarParser (fun name body found => refusals body) (refusals term)
  have related := related ⟨input, rfl, rfl⟩
  generalize (grammar.parser term (input.decorated catalog trace)).verdict = verdict,
    (grammar.parser term (input.decorated catalog' trace')).verdict = verdict' at related ⊢
  cases related with
  | accept value rests =>
    obtain ⟨rest, rfl, rfl⟩ := rests
    exact ⟨rfl, rfl⟩
  | reject errors => exact ⟨errors.kind, errors.location, errors.production, errors.message⟩
  | fault fault => rfl
  | cut allowed => exact allowed.elim

end Grammar

end GrammarKit
