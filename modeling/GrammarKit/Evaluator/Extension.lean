import GrammarKit.Evaluator.Basic
/-!
# Extending an evaluator

Functions written in the expression language itself, which may call themselves, and contexts that
count how often they are used.
-/

namespace GrammarKit

/-- The ways in which a counted context can treat values. -/
inductive ContextMode where
  /-- Values stand for themselves and are fed on as they are. -/
  | count
  /-- Values stand for themselves and nothing follows. -/
  | stop
  /-- Values stand for themselves and what follows runs twice. -/
  | twice
  /-- Values are wrapped in data of the context's tag. -/
  | wrap
deriving DecidableEq, Repr

/-- A context that counts each use under its tag. -/
def ContextMode.context {β : Type} (mode : ContextMode) (tag : String) : Context β where
  lift value :=
    match mode with
    | .wrap => .data "wrap" tag [value]
    | _ => value
  bind value next := do
    Run.tally tag
    match mode with
    | .count => next value
    | .stop => return value
    | .twice =>
      let first ← next value
      let second ← next value
      return .list [first, second]
    | .wrap =>
      match value with
      | .data "wrap" _ [inner] => next inner
      | _ => return .exception (.data "not_wrapped" "" [value])

namespace Evaluator

variable {β : Type} [Payload β]

/-- How deeply functions written in the expression language may call each other. -/
def callLimit : Nat := 1000000

/-- The evaluator in which `name` refers to a function with parameters and a body. Each call is
counted, binds the parameters that have an argument, and evaluates the body from depth zero in the
evaluator that is being made, so that the function can call itself `fuel` levels deep. -/
def defineWithFuel (evaluator : Evaluator β) (name : String) (parameters : List String)
    (body : Expr β) : Nat → Evaluator β
  | 0 => evaluator.define name fun _ => throw .endless
  | fuel + 1 => evaluator.define name fun args => do
    Run.tally name
    (defineWithFuel evaluator name parameters body fuel).eval body (Env.ofCall parameters args)

/-- The evaluator in which `name` refers to a function with parameters and a body. -/
def defineRecursive (evaluator : Evaluator β) (name : String) (parameters : List String)
    (body : Expr β) : Evaluator β :=
  evaluator.defineWithFuel name parameters body callLimit

end Evaluator

end GrammarKit
