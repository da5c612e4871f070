import GrammarKit.Session.Answer
/-!
# Commands about inputs

Making inputs, looking at them and running parsers on them.
-/

namespace GrammarKit.Session

/-- A command about inputs. The object that a command makes is called `target`. -/
inductive InputCommand where
  /-- Makes an input. -/
  | new (target : String) (source : List Char) (settingsName catalogName : Option String)
  /-- Makes an input further on. -/
  | advance (target source : String) (count : Int)
  /-- Asks what an input looks like. -/
  | look (name : String)
  /-- Asks for an error at an input. -/
  | fail (name kind : String) (args : List Host)
  /-- Names the settings of an input. -/
  | settings (target source : String)
  /-- Writes a remark into the ledger and asks for the records. -/
  | remark (name text : String)
  /-- Runs a parser; when it accepts, the rest may be kept. -/
  | parse (name : String) (grammar : Grammar) (term : Term) (target : Option String)

/-- Performs a command about inputs. -/
def InputCommand.perform : InputCommand → Act Answer
  | .new target source settingsName catalogName => do
    let slot ←
      match settingsName with
      | some name => Act.settingsSlot name
      | none => Act.addSettings Settings.standard
    let catalog ←
      match catalogName with
      | some name => Act.catalog name
      | none => Pure.pure Catalog.standard
    let settings ← Act.settingsAt slot
    let surroundings ← Act.ofExcept .setting (Surroundings.ofSettings settings catalog)
    Act.keep target (.input (Input.ofSymbols source surroundings) slot)
    return .done
  | .advance target source count => do
    let (input, slot) ← Act.input source
    let input := input.advance count.toNat
    Act.keep target (.input input slot)
    return .input input
  | .look name => do
    return .input (← Act.input name).1
  | .fail name kind args => do
    return .error ((← Act.input name).1.fail kind args)
  | .settings target source => do
    Act.keep target (.settings (← Act.input source).2)
    return .done
  | .remark name text => do
    let _ ← Act.input name
    Act.record [.remark text]
    return .records (← Act.takeRecords)
  | .parse name grammar term target => do
    let (input, slot) ← Act.input name
    let parser ← Act.ofExcept id (parserOf grammar term)
    let outcome := parser input
    Act.record outcome.records
    let parsed ← Act.ofExcept id (parsedOf outcome.verdict)
    match parsed, target with
    | .accepted _ rest, some target => Act.keep target (.input rest slot)
    | _, _ => Pure.pure ()
    return .parsed parsed (← Act.takeRecords)

end GrammarKit.Session
