import GrammarKit.Session.Basic
/-!
# Answers

What the commands of a session answer.
-/

namespace GrammarKit.Session

/-- What a command answers. -/
inductive Answer where
  /-- It is done. -/
  | done
  /-- The value of a setting. -/
  | setting (value : SettingValue)
  /-- Paths of settings. -/
  | paths (paths : List String)
  /-- A text. -/
  | text (text : String)
  /-- A template, if there is one. -/
  | template (template : Option String)
  /-- A message. -/
  | message (message : String)
  /-- An input. -/
  | input (input : Input)
  /-- An error. -/
  | error (error : ParseError)
  /-- Records. -/
  | records (records : List Record)
  /-- The result of a parse and the records so far. -/
  | parsed (parsed : Parsed) (records : List Record)
  /-- An environment. -/
  | env (env : Env Host)
  /-- The value of a name, if it has one. -/
  | lookup (value : Option (Value Host))
  /-- The value does not match. -/
  | noMatch
  /-- Whether a function is defined. -/
  | function (found : Bool)
  /-- The tag of a context, if it is registered. -/
  | context (tag : Option String)
  /-- A value and the records so far. -/
  | evaluated (value : Value Host) (records : List Record)
  /-- The value of a call, if there is something to call. -/
  | called (value : Option (Value Host))
  /-- The value of a context and how often the body ran, if the context is registered. -/
  | bound (result : Option (Value Host × Nat))
  /-- A count. -/
  | count (count : Nat)

end GrammarKit.Session
