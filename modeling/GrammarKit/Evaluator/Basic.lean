import GrammarKit.Evaluator.Context
import GrammarKit.Evaluator.Function
/-!
# The evaluator

An evaluator holds the functions and the contexts that expressions can refer to, a limit on nesting
and whether to trace. Evaluation follows the expression: an operand that raises ends the form it is
an operand of, so an exception travels outward until a try or a case asks for it.
-/

namespace GrammarKit

/-- What expressions are evaluated with. -/
structure Evaluator (β : Type) where
  /-- The functions by name, the latest definition first. -/
  functions : List (String × Function β)
  /-- The contexts by tag, the latest registration first. -/
  contexts : List (String × Context β)
  /-- How deep expressions may nest; zero or less means any depth. -/
  maxDepth : Int64
  /-- Whether every expression that is taken up is recorded. -/
  trace : Bool

namespace Evaluator

variable {β : Type}

/-- An evaluator with the built-in functions and contexts. -/
def new [Payload β] (maxDepth : Int64) (trace : Bool) : Evaluator β :=
  ⟨Function.builtIn, Context.builtIn, maxDepth, trace⟩

/-- The evaluator in which `name` refers to `function`. -/
def define (evaluator : Evaluator β) (name : String) (function : Function β) : Evaluator β :=
  { evaluator with functions := (name, function) :: evaluator.functions }

/-- The evaluator in which `context` governs the expressions of a tag. -/
def register (evaluator : Evaluator β) (tag : String) (context : Context β) : Evaluator β :=
  { evaluator with contexts := (tag, context) :: evaluator.contexts }

/-- The function a name refers to. -/
def function? (evaluator : Evaluator β) (name : String) : Option (Function β) :=
  evaluator.functions.lookup name

/-- The context that governs a tag. -/
def context? (evaluator : Evaluator β) (tag : String) : Option (Context β) :=
  evaluator.contexts.lookup tag

/-- The function a name refers to; a name without one is a fault. -/
def functionFor (evaluator : Evaluator β) (name : String) : Run (Function β) :=
  match evaluator.function? name with
  | some function => return function
  | none => throw (.undefinedFunction name)

/-- The context that governs a tag; a tag without one is a fault. -/
def contextFor (evaluator : Evaluator β) (tag : String) : Run (Context β) :=
  match evaluator.context? tag with
  | some context => return context
  | none => throw (.unregisteredContext tag)

/-- The exception that nesting too deep raises. -/
def limitExceeded (maxDepth : Int64) : Value β :=
  .exception (.data "recursion_limit_exceeded" "" [.int maxDepth])

/-- Takes up an expression at a depth: past the limit it raises, otherwise it is recorded when
tracing is on, and its evaluation goes on. -/
def takeUp [Payload β] (evaluator : Evaluator β) (expression : Expr β) (depth : Nat)
    (evaluation : Run (Value β)) : Run (Value β) := do
  if 0 < evaluator.maxDepth ∧ evaluator.maxDepth.toInt < depth then
    return limitExceeded evaluator.maxDepth
  if evaluator.trace then
    match expression.text? with
    | some text => Run.trace (.evaluate text depth)
    | none => throw .untraceable
  evaluation

mutual

/-- Evaluates an expression with the names bound in `env`, at a depth of nesting. -/
def evalAt [Payload β] (evaluator : Evaluator β) (expression : Expr β) (env : Env β)
    (depth : Nat) : Run (Value β) :=
  evaluator.takeUp expression depth <|
    match expression with
    | .absent => throw .hole
    | .lit value => return value
    | .var name => return (env.lookup name).getD (.symbol name)
    | .call name args => do
      let function ← evaluator.functionFor name
      evalArgs evaluator args env (depth + 1) [] function
    | .construct name ownTag args =>
      evalArgs evaluator args env (depth + 1) [] fun values => return .data name ownTag values
    | .ifThenElse condition yes no =>
      (evalAt evaluator condition env (depth + 1)).unlessRaised fun value =>
        match value with
        | .bool true => evalAt evaluator yes env (depth + 1)
        | .bool false => evalAt evaluator no env (depth + 1)
        | other => return .typeError "if" [other]
    | .letIn name value body =>
      (evalAt evaluator value env (depth + 1)).unlessRaised fun value =>
        evalAt evaluator body (env.bind name value) (depth + 1)
    | .letAll bindings body =>
      evalBindings evaluator bindings env env (depth + 1) fun scope =>
        evalAt evaluator body scope (depth + 1)
    | .case subject clauses => do
      let subject ← evalAt evaluator subject env (depth + 1)
      evalClauses evaluator clauses subject env (depth + 1)
    | .raise value =>
      (evalAt evaluator value env (depth + 1)).unlessRaised fun value => return .exception value
    | .attempt body catches => do
      match ← evalAt evaluator body env (depth + 1) with
      | .exception raised => evalCatches evaluator catches raised env (depth + 1)
      | value => return value
    | .lift tag value => do
      let context ← evaluator.contextFor tag
      (evalAt evaluator value env (depth + 1)).unlessRaised fun value => return context.lift value
    | .bind tag value name body => do
      let context ← evaluator.contextFor tag
      (evalAt evaluator value env (depth + 1)).unlessRaised fun value =>
        context.bind value fun item =>
          evalAt evaluator body (if name = "" then env else env.bind name item) (depth + 1)
    | .block tag steps => do
      let context ← evaluator.contextFor tag
      evalSteps evaluator context steps env (depth + 1)

/-- Evaluates arguments from left to right, the first one that raises being the result, and goes on
with their values after those already `gathered`. -/
def evalArgs [Payload β] (evaluator : Evaluator β) (args : List (Expr β)) (env : Env β)
    (depth : Nat) (gathered : List (Value β)) (next : List (Value β) → Run (Value β)) :
    Run (Value β) :=
  match args with
  | [] => next gathered
  | first :: others =>
    (evalAt evaluator first env depth).unlessRaised fun value =>
      evalArgs evaluator others env depth (gathered ++ [value]) next

/-- Evaluates bindings from left to right, none of which sees another, and goes on in the scope that
has them all. -/
def evalBindings [Payload β] (evaluator : Evaluator β) (bindings : List (Binding (Expr β)))
    (env scope : Env β) (depth : Nat) (next : Env β → Run (Value β)) : Run (Value β) :=
  match bindings with
  | [] => next scope
  | ⟨name, value⟩ :: others =>
    (evalAt evaluator value env depth).unlessRaised fun value =>
      evalBindings evaluator others env (scope.bind name value) depth next

/-- Goes on with the first clause that the subject matches. An exception passes by the clauses that
do not ask for one, and a subject that matches none raises. -/
def evalClauses [Payload β] (evaluator : Evaluator β) (clauses : List (Clause β (Expr β)))
    (subject : Value β) (env : Env β) (depth : Nat) : Run (Value β) :=
  match clauses with
  | [] =>
    if subject.isException then return subject
    else return .exception (.data "no_case_matched" "" [subject])
  | ⟨pattern, body⟩ :: others =>
    if subject.isException ∧ ¬ pattern.asksForException then
      evalClauses evaluator others subject env depth
    else
      match pattern.unify subject with
      | none => evalClauses evaluator others subject env depth
      | some found =>
        match body with
        | .absent => return subject
        | body => evalAt evaluator body (env.extend found) depth

/-- Goes on with the first catch whose test holds of what was raised; a test that raises is the
result, and without such a catch the exception goes on. -/
def evalCatches [Payload β] (evaluator : Evaluator β) (catches : List (Catch (Expr β)))
    (raised : Value β) (env : Env β) (depth : Nat) : Run (Value β) :=
  match catches with
  | [] => return .exception raised
  | ⟨name, test, handler⟩ :: others =>
    (evalAt evaluator test (env.bind name raised) depth).unlessRaised fun verdict =>
      match verdict with
      | .bool true => evalAt evaluator handler (env.bind name raised) depth
      | _ => evalCatches evaluator others raised env depth

/-- Chains steps through a context, each of which sees the names set before it and stands one level
deeper; the value is that of the last step, and no steps give a lifted unit. -/
def evalSteps [Payload β] (evaluator : Evaluator β) (context : Context β)
    (steps : List (Step (Expr β))) (env : Env β) (depth : Nat) : Run (Value β) :=
  match steps with
  | [] => return context.lift (.data "unit" "" [])
  | [⟨_, value⟩] => evalAt evaluator value env depth
  | ⟨name, value⟩ :: second :: others =>
    (evalAt evaluator value env depth).unlessRaised fun value =>
      context.bind value fun item =>
        evalSteps evaluator context (second :: others)
          (if name = "" then env else env.bind name item) (depth + 1)

end

/-- Evaluates an expression with the names bound in `env`. -/
def eval [Payload β] (evaluator : Evaluator β) (expression : Expr β) (env : Env β) :
    Run (Value β) :=
  evaluator.evalAt expression env 0

end Evaluator

end GrammarKit
