import GrammarKit.Document.Toml
import GrammarKit.Document.Yaml
import GrammarKit.Session.Catalog
import GrammarKit.Session.Settings
/-!
# Commands from texts

The commands that read a document, for its text: what a text says is decoded first.
-/

namespace GrammarKit.Session

/-- What a text in one of the formats says about settings. -/
def DocumentFormat.decode (format : DocumentFormat) (text : String) :
    Except Document.Trouble Document :=
  match format with
  | .yaml => Document.Yaml.settings text
  | .toml => (Document.Toml.settings? text).elim (throw .unreadable) pure

/-- Makes the standard settings with the document that a text describes laid over them. -/
def SettingsCommand.ofText (target : String) (format : DocumentFormat) (text : String) :
    SettingsCommand :=
  .read target format (format.decode text)

/-- Makes a catalog from the document that a text describes. -/
def CatalogCommand.ofText (target text : String) : CatalogCommand :=
  .read target (Document.Yaml.catalog text)

end GrammarKit.Session
