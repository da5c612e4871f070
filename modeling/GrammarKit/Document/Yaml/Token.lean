/-!
# Tokens

What the text of a document is made of. Besides the marks that are written there are tokens for what
only the columns of the lines say: where a sequence or a mapping starts and ends.
-/

namespace GrammarKit.Document.Yaml

/-- A part of the text of a document. -/
inductive Token where
  /-- The text starts. -/
  | textStart
  /-- The text ends. -/
  | textEnd
  /-- The version of the format that a document follows. -/
  | version (major minor : Nat)
  /-- What a handle in front of tags stands for. -/
  | handle (handle meaning : String)
  /-- A document starts. -/
  | documentStart
  /-- A document ends. -/
  | documentEnd
  /-- A sequence by columns starts. -/
  | blockSequence
  /-- A mapping by columns starts. -/
  | blockMapping
  /-- A sequence or mapping by columns ends. -/
  | blockEnd
  /-- An opening square bracket. -/
  | openSequence
  /-- A closing square bracket. -/
  | closeSequence
  /-- An opening brace. -/
  | openMapping
  /-- A closing brace. -/
  | closeMapping
  /-- The mark of an item by columns. -/
  | item
  /-- A comma. -/
  | comma
  /-- A key follows. -/
  | key
  /-- The value of a key follows. -/
  | value
  /-- A reference to a node with a name. -/
  | alias (name : String)
  /-- A name for the node that follows. -/
  | anchor (name : String)
  /-- A tag for the node that follows: a handle, empty if there is none, and what comes after it. -/
  | tag (handle suffix : String)
  /-- A scalar; `plain` when it stands without quotation marks and block marks. -/
  | scalar (plain : Bool) (text : String)
deriving DecidableEq, Repr, Inhabited

end GrammarKit.Document.Yaml
