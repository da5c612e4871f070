import GrammarKit.Document
/-!
# Settings

Settings are named by dotted paths. Each has a value of one of three kinds and may list the only
values it accepts. The kind of a setting and its list never change; a document laid over the
settings either fits as a whole or changes nothing.
-/

namespace GrammarKit

/-- The three kinds of settings. -/
inductive SettingKind where
  /-- A truth value. -/
  | flag
  /-- An integer. -/
  | number
  /-- A text. -/
  | word
deriving DecidableEq, Repr

/-- The name of a kind, as messages show it. -/
def SettingKind.name : SettingKind → String
  | .flag => "bool"
  | .number => "int"
  | .word => "string"

/-- The value of a setting. -/
inductive SettingValue where
  /-- A truth value. -/
  | flag (truth : Bool)
  /-- An integer. -/
  | number (number : Int64)
  /-- A text. -/
  | word (text : String)
deriving DecidableEq, Repr

namespace SettingValue

/-- The kind of a value. -/
def kind : SettingValue → SettingKind
  | .flag _ => .flag
  | .number _ => .number
  | .word _ => .word

/-- The text of a value. -/
def text : SettingValue → String
  | .flag truth => if truth then "true" else "false"
  | .number amount => Number.integerText amount.toInt
  | .word content => content

/-- The host value of a setting. -/
def toHost : SettingValue → Host
  | .flag truth => .bool truth
  | .number amount => .int amount
  | .word content => .text content

/-- The value that a setting takes from a host value, when it can take it. -/
def ofHost? : Host → Option SettingValue
  | .bool truth => some (.flag truth)
  | .int amount => some (.number amount)
  | .wide amount => some (.number amount)
  | .text content => some (.word content)
  | _ => none

end SettingValue

/-- A setting: its kind, its value and, unless the list is empty, the only texts it accepts. -/
structure Setting where
  /-- The kind. -/
  kind : SettingKind
  /-- The value. -/
  value : SettingValue
  /-- The accepted texts; none listed means any. -/
  accepted : List String
deriving DecidableEq, Repr

/-- A setting of the kind of its first value. -/
def Setting.of (value : SettingValue) (accepted : List String) : Setting :=
  ⟨value.kind, value, accepted⟩

/-- The text of a setting: its value and its kind. -/
def Setting.text (setting : Setting) : String :=
  setting.value.text ++ " (" ++ setting.kind.name ++ ")"

/-- Why a value does not fit the settings. -/
inductive SettingProblem where
  /-- No setting has the path. -/
  | unknown (path : String)
  /-- The setting is of another kind. -/
  | kindMismatch (path : String) (expected got : SettingKind)
  /-- The setting does not accept the value. -/
  | notAccepted (path : String) (accepted : List String) (got : String)
  /-- Values of this kind are no settings. -/
  | unsupported (path : String) (value : Host)

/-- What is wrong, in words. -/
def SettingProblem.message : SettingProblem → String
  | .unknown path => "config: unknown setting `" ++ path ++ "`"
  | .kindMismatch path expected got =>
    "config: `" ++ path ++ "` expects " ++ expected.name ++ ", got " ++ got.name
  | .notAccepted path accepted got =>
    "config: `" ++ path ++ "` must be one of " ++ ", ".intercalate accepted ++ ", got " ++ got
  | .unsupported path value =>
    "config: unsupported value " ++ value.render ++ " (" ++ value.kindName ++ ") for `" ++ path ++
      "`"

/-- Why a setting could not be used. -/
inductive SettingFault where
  /-- There is no setting at the path. -/
  | missing (wanted : SettingKind) (path : String)
  /-- The setting is of another kind than the one asked for. -/
  | otherKind (wanted actual : SettingKind)
  /-- The value of the setting is of another kind than the setting. -/
  | mistyped
  /-- The new value does not fit. -/
  | refused (problem : SettingProblem)

/-- What is wrong, in words. -/
def SettingFault.message : SettingFault → String
  | .missing wanted path => wanted.name ++ " setting `" ++ path ++ "` does not exist"
  | .otherKind wanted actual =>
    "Can't retrieve `" ++ wanted.name ++ "` from `" ++ actual.name ++ "` variable"
  | .mistyped => ""
  | .refused problem => problem.message

/-- Settings by path. -/
structure Settings where
  /-- The settings in the order of their paths. -/
  entries : List (String × Setting)
deriving DecidableEq, Repr, Inhabited

namespace Settings

/-- The path of the setting that says which error a choice reports. -/
def errorPolicyPath : String := "choice.error_policy"

/-- The path of the setting that says whether named parsers are traced. -/
def parserTracePath : String := "parser.trace"

/-- The path of the setting that says how deep expressions may nest. -/
def maxDepthPath : String := "eval.max_depth"

/-- The path of the setting that says whether evaluation is traced. -/
def evalTracePath : String := "eval.trace"

/-- No settings at all. -/
def empty : Settings := ⟨[]⟩

/-- The settings that parsers and evaluators read, with their default values. -/
def standard : Settings where
  entries :=
    [(errorPolicyPath, .of (.word "last") ["last", "furthest"]),
      (maxDepthPath, .of (.number 10000) []), (evalTracePath, .of (.flag false) []),
      (parserTracePath, .of (.flag false) [])]

/-- The setting at a path. -/
def find? (settings : Settings) (path : String) : Option Setting := settings.entries.lookup path

/-- Puts an entry into entries that are in the order of their paths, in place of the one that is
there. -/
def insertInto (path : String) (setting : Setting) :
    List (String × Setting) → List (String × Setting)
  | [] => [(path, setting)]
  | (path', setting') :: others =>
    if path = path' then (path, setting) :: others
    else if path < path' then (path, setting) :: (path', setting') :: others
    else (path', setting') :: insertInto path setting others

/-- The settings with the given one at a path. -/
def put (settings : Settings) (path : String) (setting : Setting) : Settings :=
  ⟨insertInto path setting settings.entries⟩

/-- The paths in order. -/
def paths (settings : Settings) : List String := settings.entries.map (·.1)

/-- Replaces the value of a setting that is there, keeping its kind and what it accepts. -/
def update (settings : Settings) (path : String) (value : SettingValue) :
    Except SettingProblem Settings :=
  match settings.find? path with
  | none => .error (.unknown path)
  | some setting =>
    if value.kind ≠ setting.kind then .error (.kindMismatch path setting.kind value.kind)
    else if setting.accepted ≠ [] ∧ value.text ∉ setting.accepted then
      .error (.notAccepted path setting.accepted value.text)
    else .ok (settings.put path { setting with value })

/-- Replaces the value of a setting, or makes a new one that accepts any value of its kind. -/
def set (settings : Settings) (path : String) (value : SettingValue) :
    Except SettingFault Settings :=
  match settings.find? path with
  | none => .ok (settings.put path (.of value []))
  | some _ => (settings.update path value).mapError .refused

/-- The value at a path. The setting has to be of the wanted kind, and then its value is taken to be
of that kind as well. -/
def get (settings : Settings) (wanted : SettingKind) (path : String) :
    Except SettingFault SettingValue :=
  match settings.find? path with
  | none => .error (.missing wanted path)
  | some setting =>
    if setting.kind ≠ wanted then .error (.otherKind wanted setting.kind)
    else if setting.value.kind ≠ wanted then .error .mistyped
    else .ok setting.value

/-- The truth value at a path. -/
def getFlag (settings : Settings) (path : String) : Except SettingFault Bool := do
  match ← settings.get .flag path with
  | .flag truth => return truth
  | _ => throw .mistyped

/-- The integer at a path. -/
def getNumber (settings : Settings) (path : String) : Except SettingFault Int64 := do
  match ← settings.get .number path with
  | .number amount => return amount
  | _ => throw .mistyped

/-- The text at a path. -/
def getWord (settings : Settings) (path : String) : Except SettingFault String := do
  match ← settings.get .word path with
  | .word content => return content
  | _ => throw .mistyped

/-- The path of a key below another path; the empty path adds nothing in front. -/
def below (path key : String) : String := if path = "" then key else path ++ "." ++ key

/-- Updates the setting at a path with a host value, if such a value can be one of a setting. -/
def updateWith (settings : Settings) (path : String) (host : Host) :
    Except SettingProblem Settings :=
  match SettingValue.ofHost? host with
  | some value => settings.update path value
  | none => .error (.unsupported path host)

mutual

/-- Lays a host value over the settings at a path. Of a mapping from texts the entries are laid over
them, and anything else updates the setting at the path. -/
def overlayAt (path : String) : Host → Settings → Except SettingProblem Settings
  | .record entries, settings => overlayBelow path entries settings
  | host, settings => settings.updateWith path host
termination_by structural host => host

/-- Lays the entries of a mapping over the settings below a path, one after the other; the first
that does not fit is the problem. -/
def overlayBelow (path : String) :
    List (String × Host) → Settings → Except SettingProblem Settings
  | [], settings => .ok settings
  | (key, item) :: others, settings => do
    let next ← overlayAt (below path key) item settings
    overlayBelow path others next
termination_by structural entries => entries

end

/-- Lays a document over the settings: everything in it has to fit the setting at its path, and
otherwise nothing is changed. -/
def overlay (settings : Settings) (document : Document) : Except SettingProblem Settings :=
  overlayBelow "" document.entries settings

/-- One line for each setting, with the values one below the other. -/
def dump (settings : Settings) : String :=
  let width := settings.paths.foldl (fun width path => max width path.utf8ByteSize) 0
  "".intercalate <| settings.entries.map fun (path, setting) =>
    path ++ String.ofList (List.replicate (width - path.utf8ByteSize) ' ') ++ " : " ++
      setting.text ++ "\n"

end Settings

end GrammarKit
