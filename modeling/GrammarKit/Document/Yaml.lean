import GrammarKit.Document.Yaml.Meaning
import GrammarKit.Document.Yaml.Reader
/-!
# Documents by indentation

What a text says: settings as a document, and catalogs as a mapping from texts to texts. At the top
the keys count as texts, whatever they look like.
-/

namespace GrammarKit.Document.Yaml

/-- The settings that a text describes. A text without a document describes none. -/
def settings (text : String) : Except Trouble Document := do
  match firstDocument? text with
  | none => throw .unreadable
  | some none => return .ofEntries []
  | some (some node) => return .ofEntries (← documentEntries .record node)

/-- The templates that a text describes. A text without a document is refused. -/
def catalog (text : String) : Except Trouble (List (String × String)) := do
  match firstDocument? text with
  | some (some node) =>
    return (← documentEntries .catalog node).map fun (key, item) => (key, item.render)
  | _ => throw .unreadable

end GrammarKit.Document.Yaml
