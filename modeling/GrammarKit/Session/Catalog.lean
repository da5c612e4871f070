import GrammarKit.Session.Answer
/-!
# Commands about catalogs

Making catalogs and asking them for templates and messages. The templates of a document come as what
was decoded of its text, or as the trouble there was.
-/

namespace GrammarKit.Session

/-- A command about catalogs. The object that a command makes is called `target`. -/
inductive CatalogCommand where
  /-- Makes the standard catalog. -/
  | standard (target : String)
  /-- Makes a catalog from a document. -/
  | read (target : String) (decoded : Except Document.Trouble (List (String × String)))
  /-- Makes a catalog with one more template. -/
  | withTemplate (target source kind wording : String)
  /-- Makes a catalog with the templates of another on top. -/
  | merge (target source other : String)
  /-- Asks for a template. -/
  | template (name kind : String)
  /-- Asks for a message. -/
  | message (name kind : String) (args : List Host)

/-- Performs a command about catalogs. -/
def CatalogCommand.perform : CatalogCommand → Act Answer
  | .standard target => do
    Act.keep target (.catalog Catalog.standard)
    return .done
  | .read target decoded => do
    let templates ← Act.ofExcept (Failure.ofTrouble .unreadableCatalog) decoded
    Act.keep target (.catalog ⟨templates⟩)
    return .done
  | .withTemplate target source kind wording => do
    let catalog ← Act.catalog source
    Act.keep target (.catalog (catalog.withTemplate kind wording))
    return .done
  | .merge target source other => do
    let catalog ← Act.catalog source
    let other ← Act.catalog other
    Act.keep target (.catalog (catalog.merge other))
    return .done
  | .template name kind => do
    return .template ((← Act.catalog name).template? kind)
  | .message name kind args => do
    return .message ((← Act.catalog name).message kind args)

end GrammarKit.Session
