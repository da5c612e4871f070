import GrammarKit.Session.Answer
/-!
# Commands about evaluators

Making evaluators, extending them and running them.
-/

namespace GrammarKit.Session

/-- A command about evaluators. The object that a command makes is called `target`. -/
inductive EvaluatorCommand where
  /-- Makes an evaluator. -/
  | new (target : String) (settings : Option String)
  /-- Makes an evaluator with one more function. -/
  | define (target source name : String) (parameters : List String) (body : Expr Host)
  /-- Makes an evaluator with one more context. -/
  | register (target source tag : String) (mode : ContextMode)
  /-- Asks whether a function is defined. -/
  | hasFunction (evaluator name : String)
  /-- Asks whether a context is registered. -/
  | hasContext (evaluator tag : String)
  /-- Evaluates an expression. -/
  | eval (evaluator : String) (expression : Expr Host) (env : Option String)
  /-- Calls a function. -/
  | callFunction (evaluator name : String) (args : List (Value Host))
  /-- Lifts a value into a context. -/
  | contextLift (evaluator tag : String) (value : Value Host)
  /-- Feeds a value to a body through a context. -/
  | contextBind (evaluator tag : String) (value : Value Host) (name : String) (body : Expr Host)
  /-- Asks how often a name was counted. -/
  | uses (name : String)

/-- Performs a command about evaluators. -/
def EvaluatorCommand.perform : EvaluatorCommand → Act Answer
  | .new target settings => do
    let settings ←
      match settings with
      | some name => Act.settingsAt (← Act.settingsSlot name)
      | none => Pure.pure Settings.standard
    Act.keep target (.evaluator (← Act.ofExcept id (evaluatorWith settings)))
    return .done
  | .define target source name parameters body => do
    let evaluator ← Act.evaluator source
    Act.keep target (.evaluator (evaluator.defineRecursive name parameters body))
    return .done
  | .register target source tag mode => do
    let evaluator ← Act.evaluator source
    Act.keep target (.evaluator (evaluator.register tag (mode.context tag)))
    return .done
  | .hasFunction evaluator name => do
    return .function ((← Act.evaluator evaluator).function? name).isSome
  | .hasContext evaluator tag => do
    return .context (((← Act.evaluator evaluator).context? tag).map fun _ => tag)
  | .eval evaluator expression env => do
    let evaluator ← Act.evaluator evaluator
    let env ←
      match env with
      | some name => Act.env name
      | none => Pure.pure Env.empty
    let value ← Act.evaluate (evaluator.eval expression env)
    return .evaluated value (← Act.takeRecords)
  | .callFunction evaluator name args => do
    match (← Act.evaluator evaluator).function? name with
    | none => return .called none
    | some function => return .called (some (← Act.evaluate (function args)))
  | .contextLift evaluator tag value => do
    match (← Act.evaluator evaluator).context? tag with
    | none => return .called none
    | some context => return .called (some (context.lift value))
  | .contextBind evaluator tag value name body => do
    let evaluator ← Act.evaluator evaluator
    match evaluator.context? tag with
    | none => return .bound none
    | some context =>
      let before := (← get).ledger.turns
      let value ← Act.evaluate <| context.bind value fun item => do
        Run.turn
        evaluator.eval body (Env.empty.bind name item)
      return .bound (some (value, (← get).ledger.turns - before))
  | .uses name => do
    return .count ((← get).ledger.count name)

end GrammarKit.Session
