import GrammarKit.Session.Answer
/-!
# Commands about settings

Making, reading and changing settings. Settings change in place, so everything that shares a slot
sees the change. A document comes as what was decoded of its text, or as the trouble there was.
-/

namespace GrammarKit.Session

/-- A command about settings. The object that a command makes is called `target`. -/
inductive SettingsCommand where
  /-- Makes the standard settings. -/
  | standard (target : String)
  /-- Makes settings without any setting. -/
  | empty (target : String)
  /-- Makes the standard settings with a document laid over them. -/
  | read (target : String) (format : DocumentFormat) (decoded : Except Document.Trouble Document)
  /-- Makes a copy of settings. -/
  | copy (target source : String)
  /-- Sets a setting. -/
  | set (name path : String) (value : SettingValue)
  /-- Asks for a setting of a kind. -/
  | get (name : String) (kind : SettingKind) (path : String)
  /-- Asks for the paths of all settings. -/
  | paths (name : String)
  /-- Asks for all settings as text. -/
  | dump (name : String)
  /-- Lays a document over settings. -/
  | overlay (name : String) (document : Document)

/-- Performs a command about settings. -/
def SettingsCommand.perform : SettingsCommand → Act Answer
  | .standard target => do
    Act.keep target (.settings (← Act.addSettings Settings.standard))
    return .done
  | .empty target => do
    Act.keep target (.settings (← Act.addSettings Settings.empty))
    return .done
  | .read target format decoded => do
    let document ← Act.ofExcept (Failure.ofTrouble (.unreadable format)) decoded
    let settings ← Act.ofExcept .overlay (Settings.standard.overlay document)
    Act.keep target (.settings (← Act.addSettings settings))
    return .done
  | .copy target source => do
    let settings ← Act.settingsAt (← Act.settingsSlot source)
    Act.keep target (.settings (← Act.addSettings settings))
    return .done
  | .set name path value => do
    let slot ← Act.settingsSlot name
    let settings ← Act.settingsAt slot
    Act.putSettings slot (← Act.ofExcept .setting (settings.set path value))
    return .done
  | .get name kind path => do
    let settings ← Act.settingsAt (← Act.settingsSlot name)
    return .setting (← Act.ofExcept .setting (settings.get kind path))
  | .paths name => do
    return .paths (← Act.settingsAt (← Act.settingsSlot name)).paths
  | .dump name => do
    return .text (← Act.settingsAt (← Act.settingsSlot name)).dump
  | .overlay name document => do
    let slot ← Act.settingsSlot name
    let settings ← Act.settingsAt slot
    Act.putSettings slot (← Act.ofExcept .overlay (settings.overlay document))
    return .done

end GrammarKit.Session
