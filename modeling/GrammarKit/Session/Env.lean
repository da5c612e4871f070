import GrammarKit.Session.Answer
/-!
# Commands about environments

Making environments and looking names up in them.
-/

namespace GrammarKit.Session

/-- Something in a flat list of names and values. -/
inductive PairItem where
  /-- A text, which can be a name. -/
  | name (text : String)
  /-- A value. -/
  | value (value : Value Host)
  /-- Neither. -/
  | other

/-- A command about environments. The object that a command makes is called `target`. -/
inductive EnvCommand where
  /-- Makes the empty environment. -/
  | empty (target : String)
  /-- Makes an environment from a flat list of names and values. -/
  | new (target : String) (items : List PairItem)
  /-- Makes an environment with one more binding. -/
  | bind (target source name : String) (value : Value Host)
  /-- Makes an environment with the bindings of another on top. -/
  | extend (target source other : String)
  /-- Asks what an environment looks like. -/
  | look (name : String)
  /-- Asks for the value of a name. -/
  | lookup (env name : String)
  /-- Makes an environment with the bindings of a match on top, if there is one. -/
  | unify (target source : String) (pattern : Pattern Host) (value : Value Host)

/-- Binds the names and values of a flat list in order. -/
def envOfItems (env : Env Host) : List PairItem → Except Failure (Env Host)
  | [] => .ok env
  | .name name :: .value value :: others => envOfItems (env.bind name value) others
  | _ => .error .mispaired

/-- Performs a command about environments. -/
def EnvCommand.perform : EnvCommand → Act Answer
  | .empty target => do
    Act.keep target (.env Env.empty)
    return .done
  | .new target items => do
    if items.length % 2 = 1 then throw .unpaired
    let env ← Act.ofExcept id (envOfItems Env.empty items)
    Act.keep target (.env env)
    return .env env
  | .bind target source name value => do
    let env := (← Act.env source).bind name value
    Act.keep target (.env env)
    return .env env
  | .extend target source other => do
    let env ← Act.env source
    let env := env.extend (← Act.env other)
    Act.keep target (.env env)
    return .env env
  | .look name => do
    return .env (← Act.env name)
  | .lookup env name => do
    return .lookup ((← Act.env env).lookup name)
  | .unify target source pattern value => do
    let env ← Act.env source
    match pattern.unify value with
    | none => return .noMatch
    | some found =>
      let env := env.extend found
      Act.keep target (.env env)
      return .env env

end GrammarKit.Session
