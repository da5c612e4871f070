import GrammarKit.Evaluator.Extension
import GrammarKit.Grammar.Term
/-!
# Workspaces

A session works on named objects: settings, catalogs, inputs, environments and evaluators. Settings
are the only objects that change in place, and an input shares the settings it was made with, so
they live in slots that objects refer to. All inputs and evaluators of a session write into one
ledger.
-/

namespace GrammarKit.Session

/-- An object that a session can name. -/
inductive Object where
  /-- The settings in a slot. -/
  | settings (slot : Nat)
  /-- A catalog of messages. -/
  | catalog (catalog : Catalog)
  /-- An input and the slot of the settings it was made with. -/
  | input (input : Input) (slot : Nat)
  /-- An environment. -/
  | env (env : Env Host)
  /-- An evaluator. -/
  | evaluator (evaluator : Evaluator Host)

/-- The two formats of settings documents. -/
inductive DocumentFormat where
  /-- Nested by indentation. -/
  | yaml
  /-- Nested by tables. -/
  | toml
deriving DecidableEq, Repr

/-- Why a step of a session failed. -/
inductive Failure where
  /-- No object has the name, or not one of the needed sort. -/
  | noObject (name : String)
  /-- A setting could not be used. -/
  | setting (fault : SettingFault)
  /-- A document does not fit the settings. -/
  | overlay (problem : SettingProblem)
  /-- A settings document could not be read. -/
  | unreadable (format : DocumentFormat)
  /-- A catalog could not be read. -/
  | unreadableCatalog
  /-- A document uses a collection where keys are told apart. -/
  | unusableKey
  /-- A term cannot be made into a parser. -/
  | defect (defect : TermDefect)
  /-- A parse had to stop. -/
  | parse (fault : ParseFault)
  /-- An evaluation had to stop. -/
  | eval (fault : EvalFault)
  /-- Names and values do not come in pairs. -/
  | unpaired
  /-- Something else stands where a name or a value should. -/
  | mispaired

/-- A failure is sudden when it has a message that nobody handed over as an error; a failure without
a message has none to show. -/
inductive FailureKind where
  /-- A programming error with a message. -/
  | panic
  /-- A programming error without a message. -/
  | crash
  /-- An error about settings. -/
  | config
  /-- An unreadable settings document. -/
  | unreadable (format : DocumentFormat)
  /-- An unreadable catalog. -/
  | unreadableCatalog
  /-- A name without an object. -/
  | noObject

namespace Failure

/-- The kind of a failure. -/
def kind : Failure → FailureKind
  | .noObject _ => .noObject
  | .setting .mistyped => .crash
  | .setting _ | .defect _ | .unpaired => .panic
  | .overlay _ => .config
  | .unreadable format => .unreadable format
  | .unreadableCatalog => .unreadableCatalog
  | .parse .rejectionWithoutError => .panic
  | .parse _ => .crash
  | .eval .untraceable | .eval .endless => .crash
  | .eval _ => .panic
  | .mispaired | .unusableKey => .crash

/-- The failure that trouble with a document amounts to, given the one for unreadable texts. -/
def ofTrouble (unreadable : Failure) : Document.Trouble → Failure
  | .unreadable => unreadable
  | .unusableKey => .unusableKey

/-- What went wrong, in words. -/
def message : Failure → String
  | .noObject name => name
  | .setting fault => fault.message
  | .overlay problem => problem.message
  | .unreadable .yaml => "config: can't decode yaml"
  | .unreadable .toml => "config: can't decode toml"
  | .unreadableCatalog => "can't load error catalog"
  | .defect flaw => flaw.message
  | .parse .rejectionWithoutError => "Reject called without an error"
  | .parse _ => ""
  | .eval (.undefinedFunction name) => "function `" ++ name ++ "` is not defined"
  | .eval (.unregisteredContext tag) => "monad `" ++ tag ++ "` is not registered"
  | .eval .hole => "unknown expression <nil>"
  | .eval _ => ""
  | .unpaired => "NewEnv expects name/value pairs"
  | .mispaired | .unusableKey => ""

end Failure

/-- What a session has made so far. -/
structure Workspace where
  /-- The named objects, the latest first. -/
  objects : List (String × Object) := []
  /-- The settings by slot. -/
  slots : Array Settings := #[]
  /-- What was recorded and counted. -/
  ledger : Ledger := {}
deriving Inhabited

/-- A step of a session: it may change the workspace and it may fail. -/
abbrev Act (α : Type) := ExceptT Failure (StateM Workspace) α

namespace Act

/-- Gives an object a name; an empty name is a name too. -/
def keep (name : String) (object : Object) : Act Unit :=
  modify fun workspace => { workspace with objects := (name, object) :: workspace.objects }

/-- The object of a name, when it is of the sort that is needed. -/
def find {α : Type} (sort : Object → Option α) (name : String) : Act α := do
  match (← get).objects.lookup name >>= sort with
  | some found => return found
  | none => throw (.noObject name)

/-- The slot of the settings of a name. -/
def settingsSlot (name : String) : Act Nat :=
  find (fun | .settings slot => some slot | _ => none) name

/-- The catalog of a name. -/
def catalog (name : String) : Act Catalog :=
  find (fun | .catalog catalog => some catalog | _ => none) name

/-- The input of a name and the slot of its settings. -/
def input (name : String) : Act (Input × Nat) :=
  find (fun | .input input slot => some (input, slot) | _ => none) name

/-- The environment of a name. -/
def env (name : String) : Act (Env Host) :=
  find (fun | .env env => some env | _ => none) name

/-- The evaluator of a name. -/
def evaluator (name : String) : Act (Evaluator Host) :=
  find (fun | .evaluator evaluator => some evaluator | _ => none) name

/-- The settings in a slot. -/
def settingsAt (slot : Nat) : Act Settings := do
  return (← get).slots.getD slot Settings.empty

/-- Puts settings into a new slot. -/
def addSettings (settings : Settings) : Act Nat := do
  let workspace ← get
  set { workspace with slots := workspace.slots.push settings }
  return workspace.slots.size

/-- Replaces the settings in a slot. -/
def putSettings (slot : Nat) (settings : Settings) : Act Unit :=
  modify fun workspace => { workspace with slots := workspace.slots.setIfInBounds slot settings }

/-- Goes on with a result or fails with a problem. -/
def ofExcept {ε α : Type} (failure : ε → Failure) : Except ε α → Act α
  | .ok value => return value
  | .error problem => throw (failure problem)

/-- Runs an evaluation on the ledger of the workspace; the ledger keeps what was written even when
the evaluation stops. -/
def evaluate {α : Type} (run : Run α) : Act α := do
  let workspace ← get
  let (result, ledger) := run.run.run workspace.ledger
  set { workspace with ledger }
  ofExcept .eval result

/-- Writes records into the ledger. -/
def record (records : List Record) : Act Unit :=
  modify fun workspace =>
    let ledger := workspace.ledger
    { workspace with ledger := { ledger with records := ledger.records ++ records.toArray } }

/-- Takes the records out of the ledger. -/
def takeRecords : Act (List Record) := do
  let workspace ← get
  set { workspace with ledger := { workspace.ledger with records := #[] } }
  return workspace.ledger.records.toList

end Act

/-- Makes a parser of a term, unless the grammar or the term has a defect. -/
def parserOf (grammar : Grammar) (term : Term) : Except Failure (Parser Host) :=
  match grammar.defect? term with
  | some defect => .error (.defect defect)
  | none => .ok (grammar.parser term)

/-- The verdict of a parse that did not stop. -/
inductive Parsed where
  /-- A value and the input after it. -/
  | accepted (value : Host) (rest : Input)
  /-- The error that made the parse fail. -/
  | rejected (error : ParseError)

/-- The result of a parse as text. -/
def Parsed.text : Parsed → String
  | .accepted value rest =>
    "Accept(" ++ value.display.render ++ ", " ++ Text.quote rest.restText ++ " @ " ++
      rest.location.text ++ ")"
  | .rejected error => "Reject(" ++ error.text ++ ")"

/-- The verdict as a result, a fault as a failure. -/
def parsedOf : Verdict Host → Except Failure Parsed
  | .accept value rest => .ok (.accepted value rest)
  | .reject error => .ok (.rejected error)
  | .fault fault => .error (.parse fault)

/-- The settings after a list of changes to the standard ones. -/
def settingsWith (changes : List (String × SettingValue)) : Except Failure Settings :=
  (changes.foldlM (fun (settings : Settings) change => settings.set change.1 change.2)
    Settings.standard).mapError .setting

/-- An evaluator that reads its settings. -/
def evaluatorWith (settings : Settings) : Except Failure (Evaluator Host) :=
  Except.mapError .setting do
    let maxDepth ← settings.getNumber Settings.maxDepthPath
    let trace ← settings.getFlag Settings.evalTracePath
    return Evaluator.new maxDepth trace

end GrammarKit.Session
