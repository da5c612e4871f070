import GrammarKit.Session.Catalog
import GrammarKit.Session.Env
import GrammarKit.Session.Evaluator
import GrammarKit.Session.Input
import GrammarKit.Session.Settings
/-!
# Sessions

A session performs commands one after the other. A command that fails makes no object and leaves the
named objects as they were; what it recorded and counted before it failed stays.
-/

namespace GrammarKit.Session

/-- A command of a session. -/
inductive Command where
  /-- A command about settings. -/
  | settings (command : SettingsCommand)
  /-- A command about catalogs. -/
  | catalog (command : CatalogCommand)
  /-- A command about inputs. -/
  | input (command : InputCommand)
  /-- A command about environments. -/
  | env (command : EnvCommand)
  /-- A command about evaluators. -/
  | evaluator (command : EvaluatorCommand)

/-- Performs a command. -/
def Command.perform : Command → Act Answer
  | .settings command => command.perform
  | .catalog command => command.perform
  | .input command => command.perform
  | .env command => command.perform
  | .evaluator command => command.perform

/-- Performs commands one after the other; one that fails does not stop the others. -/
def performAll : List Command → Workspace → List (Except Failure Answer)
  | [], _ => []
  | command :: others, workspace =>
    let (answer, workspace) := command.perform.run.run workspace
    answer :: performAll others workspace

end GrammarKit.Session
