import GrammarKit.Session.Basic
/-!
# Single requests

A parse or an evaluation on its own, with settings and templates of its own.
-/

namespace GrammarKit.Session

/-- A source to be parsed. -/
structure ParseRequest where
  /-- The rules. -/
  grammar : Grammar
  /-- What to parse. -/
  term : Term
  /-- The source. -/
  source : List Char
  /-- Changes to the standard settings. -/
  settings : List (String × SettingValue) := []
  /-- Templates to put into the standard catalog. -/
  templates : List (String × String) := []
  /-- Whether the whole source has to be consumed. -/
  whole : Bool := false
  /-- Whether an expression that is accepted is evaluated. -/
  evaluate : Bool := false

/-- What came of a parse. -/
structure ParseReport where
  /-- The result. -/
  parsed : Parsed
  /-- What the accepted expression evaluates to. -/
  value : Option (Value Host)
  /-- What was recorded. -/
  records : List Record

/-- Evaluates with the standard settings. -/
def evaluateStandard (expression : Expr Host) : Except Failure (Value Host) := do
  let evaluator ← evaluatorWith Settings.standard
  ((evaluator.eval expression Env.empty).run.run {}).1.mapError .eval

/-- The expression that was accepted, if there is one. -/
def Parsed.expression? : Parsed → Option (Expr Host)
  | .accepted (.expr expression) _ => some expression
  | _ => none

/-- Parses a source. -/
def ParseRequest.run (request : ParseRequest) : Except Failure ParseReport := do
  let settings ← settingsWith request.settings
  let catalog := request.templates.foldl
    (fun (catalog : Catalog) entry => catalog.withTemplate entry.1 entry.2) Catalog.standard
  let parser ← parserOf request.grammar request.term
  let surroundings ← (Surroundings.ofSettings settings catalog).mapError .setting
  let parser := if request.whole then parser.entireInput else parser
  let outcome := parser (Input.ofSymbols request.source surroundings)
  let parsed ← parsedOf outcome.verdict
  let value ←
    match request.evaluate, parsed.expression? with
    | true, some expression => some <$> evaluateStandard expression
    | _, _ => Except.ok none
  return { parsed, value, records := outcome.records }

/-- An expression to be evaluated. -/
structure EvalRequest where
  /-- What to evaluate. -/
  expression : Expr Host
  /-- The names that are bound. -/
  bindings : List (String × Value Host) := []
  /-- Changes to the standard settings. -/
  settings : List (String × SettingValue) := []

/-- What came of an evaluation. -/
structure EvalReport where
  /-- The value. -/
  value : Value Host
  /-- What was recorded. -/
  records : List Record

/-- Evaluates an expression. -/
def EvalRequest.run (request : EvalRequest) : Except Failure EvalReport := do
  let settings ← settingsWith request.settings
  let evaluator ← evaluatorWith settings
  let (result, ledger) :=
    (evaluator.eval request.expression (Env.ofList request.bindings)).run.run {}
  let value ← result.mapError .eval
  return { value, records := ledger.records.toList }

end GrammarKit.Session
