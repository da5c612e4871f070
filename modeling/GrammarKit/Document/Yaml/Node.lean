/-!
# Nodes of a document

A document is a tree of scalars, sequences, mappings and references to other nodes of it. A scalar
keeps its text and whether it was written plainly, because only plain scalars are read as anything
other than text. Any node but a reference may carry a tag.
-/

namespace GrammarKit.Document.Yaml

/-- A node of a document. An empty tag means that there is none. -/
inductive Node where
  /-- A scalar; `plain` when it stands without quotation marks and block marks. -/
  | scalar (tag : String) (plain : Bool) (text : String)
  /-- A sequence of nodes. -/
  | sequence (tag : String) (items : List Node)
  /-- A mapping from nodes to nodes, in the order of the document. -/
  | mapping (tag : String) (entries : List (Node × Node))
  /-- A reference to a node with a name; a reference to a node that holds it has no target. -/
  | alias (name : String) (target : Option Node)
deriving Inhabited

namespace Node

/-- The node that stands where nothing is written. -/
def empty : Node := .scalar "" true ""

/-- Two nodes clash as keys of one mapping when they are of one sort and are written with the same
text; sequences and mappings have none. -/
def clashes : Node → Node → Bool
  | .scalar _ _ text, .scalar _ _ text' => text == text'
  | .sequence .., .sequence .. => true
  | .mapping .., .mapping .. => true
  | .alias name _, .alias name' _ => name == name'
  | _, _ => false

/-- Whether no two keys of a mapping clash. -/
def keysDiffer : List (Node × Node) → Bool
  | [] => true
  | (key, _) :: others => !(others.any fun other => key.clashes other.1) && keysDiffer others

end Node

end GrammarKit.Document.Yaml
