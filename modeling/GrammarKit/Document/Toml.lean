import GrammarKit.Document
import GrammarKit.Document.Toml.Reader
/-!
# Documents of tables

What a text says: settings as a document.
-/

namespace GrammarKit.Document.Toml

/-- The settings that a text describes; nothing if it is malformed. -/
def settings? (text : String) : Option Document := do
  let symbols := text.toList
  let outline ← Outline.takeLines (symbols.length + 1) {} symbols
  return .ofEntries (Item.entriesToHost outline.entries)

end GrammarKit.Document.Toml
