import GrammarKit.Document.Yaml.Node
import GrammarKit.Document.Yaml.Token.Stream
/-!
# Reading a document

The first document of a text as a node. What is no document has no reading; what comes after the
first document counts only as far as its tokens are read ahead.
-/

namespace GrammarKit.Document.Yaml

/-- A node that has been given a name. -/
structure Anchor where
  /-- The name. -/
  name : String
  /-- The number of the node among those with names. -/
  number : Nat
  /-- The node, once it has been read. -/
  node : Option Node

/-- How far reading has come. -/
structure Progress where
  /-- The tokens that are left. -/
  stream : TokenStream
  /-- The nodes with names, the last one first. -/
  anchors : List Anchor := []
  /-- How many nodes have been given names. -/
  named : Nat := 0
  /-- What handles stand for. -/
  handles : List (String × String) := []

/-- Reading nodes, which may fail. -/
abbrev NodeReading := StateT Progress Option

/-- Works on the tokens that are left. -/
def onTokens {α : Type} (work : Tokenizing α) : NodeReading α := do
  let progress ← get
  let (result, stream) ← work.run progress.stream
  set { progress with stream }
  return result

/-- The next token, which stays where it is. -/
def peek : NodeReading Token := onTokens TokenStream.peek

/-- Takes the next token away. -/
def skip : NodeReading Unit := onTokens TokenStream.skip

/-- What can stand in front of a node: a name for it and a tag. -/
structure Properties where
  /-- The name, if there is one. -/
  anchor : Option String := none
  /-- The handle and the rest of the tag, if there is one. -/
  tag : Option (String × String) := none

/-- Reads a name, if one stands here. -/
def takeAnchor (found : Properties) : NodeReading Properties := do
  match ← peek with
  | .anchor name =>
    skip
    return { found with anchor := some name }
  | _ => return found

/-- Reads a tag, if one stands here. -/
def takeTag (found : Properties) : NodeReading Properties := do
  match ← peek with
  | .tag handle suffix =>
    skip
    return { found with tag := some (handle, suffix) }
  | _ => return found

/-- Reads a name and a tag in front of a node, in any order. -/
def properties : NodeReading Properties := do
  match ← peek with
  | .anchor _ => takeTag (← takeAnchor {})
  | .tag .. => takeAnchor (← takeTag {})
  | _ => return {}

/-- What the standard tags start with when they are written out in full. -/
def standardTags : String := "tag:yaml.org,2002:"

/-- A tag in the short form if it is one of the standard tags. A lone mark is no tag. -/
def shortTag (tag : String) : String :=
  if standardTags.toList.isPrefixOf tag.toList then
    "!!" ++ String.ofList (tag.toList.drop standardTags.length)
  else if tag = "!" then ""
  else tag

/-- The tag in front of a node; empty if there is none. Its handle has to stand for something. -/
def Properties.tagText (found : Properties) : NodeReading String := do
  match found.tag with
  | none => return ""
  | some ("", suffix) => return shortTag suffix
  | some (handle, suffix) => return shortTag ((← (← get).handles.lookup handle) ++ suffix)

/-- Whether a node may be left out because something stands in front of it. -/
def Properties.standAlone (found : Properties) : Bool := found.anchor.isSome || found.tag.isSome

/-- Gives a name to the node that is read by `work`. While the node is being read, the name refers
to a node that is not there yet. -/
def naming (anchor : Option String) (work : NodeReading Node) : NodeReading Node := do
  match anchor with
  | none => work
  | some name =>
    let number := (← get).named
    modify fun progress =>
      { progress with anchors := ⟨name, number, none⟩ :: progress.anchors, named := number + 1 }
    let node ← work
    modify fun progress =>
      { progress with
        anchors := progress.anchors.map fun anchor =>
          if anchor.number = number then { anchor with node := some node } else anchor }
    return node

/-- The reference to the last node with a name. -/
def reference (name : String) : NodeReading Node := do
  let anchor ← (← get).anchors.find? fun anchor => anchor.name == name
  return .alias name anchor.node

/-- Whether a token ends a key or a value by columns. -/
def endsBlockPart : Token → Bool
  | .key | .value | .blockEnd => true
  | _ => false

mutual

/-- Reads a node. Collections by columns are read when `block` says so, and a sequence that shares
its column with the mapping around it when `shared` does. The first argument of this function and of
those below bounds the steps. -/
def readNode : Nat → (block shared : Bool) → NodeReading Node
  | 0, _, _ => failure
  | steps + 1, block, shared => do
    match ← peek with
    | .alias name =>
      skip
      reference name
    | _ =>
      let found ← properties
      let tag ← found.tagText
      naming found.anchor do
        match ← peek with
        | .scalar plain text =>
          skip
          return .scalar tag plain text
        | .openSequence =>
          skip
          return .sequence tag (← readItems steps true)
        | .openMapping =>
          skip
          return .mapping tag (← readEntries steps true)
        | .item =>
          if shared then return .sequence tag (← readSharedItems steps)
          else if found.standAlone then return .scalar tag true ""
          else failure
        | .blockSequence =>
          if block then
            skip
            return .sequence tag (← readBlockItems steps)
          else if found.standAlone then return .scalar tag true ""
          else failure
        | .blockMapping =>
          if block then
            skip
            return .mapping tag (← readBlockEntries steps)
          else if found.standAlone then return .scalar tag true ""
          else failure
        | _ => if found.standAlone then return .scalar tag true "" else failure

/-- Reads the items of a sequence by columns up to its end. -/
def readBlockItems : Nat → NodeReading (List Node)
  | 0 => failure
  | steps + 1 => do
    match ← peek with
    | .item =>
      skip
      let item ←
        match ← peek with
        | .item | .blockEnd => pure Node.empty
        | _ => readNode steps true false
      return item :: (← readBlockItems steps)
    | .blockEnd =>
      skip
      return []
    | _ => failure

/-- Reads the items of a sequence that shares its column with the mapping around it. -/
def readSharedItems : Nat → NodeReading (List Node)
  | 0 => failure
  | steps + 1 => do
    match ← peek with
    | .item =>
      skip
      let next ← peek
      let item ←
        if next = .item ∨ endsBlockPart next then pure Node.empty else readNode steps true false
      return item :: (← readSharedItems steps)
    | _ => return []

/-- Reads the entries of a mapping by columns up to its end. -/
def readBlockEntries : Nat → NodeReading (List (Node × Node))
  | 0 => failure
  | steps + 1 => do
    match ← peek with
    | .key =>
      skip
      let key ← if endsBlockPart (← peek) then pure Node.empty else readNode steps true true
      let item ← readBlockValue steps
      return (key, item) :: (← readBlockEntries steps)
    | .blockEnd =>
      skip
      return []
    | _ => failure

/-- Reads the value of a key by columns; it may be missing. -/
def readBlockValue : Nat → NodeReading Node
  | 0 => failure
  | steps + 1 => do
    match ← peek with
    | .value =>
      skip
      if endsBlockPart (← peek) then return Node.empty else readNode steps true true
    | _ => return Node.empty

/-- Reads the items of a sequence in brackets up to its end; `first` says that none has been read.
An item with a key is a mapping of its own. -/
def readItems : Nat → (first : Bool) → NodeReading (List Node)
  | 0, _ => failure
  | steps + 1, first => do
    if (← peek) = .closeSequence then
      skip
      return []
    if !first then
      if (← peek) = .comma then skip else failure
    match ← peek with
    | .closeSequence =>
      skip
      return []
    | .key =>
      skip
      let entry ← readPair steps
      return .mapping "" [entry] :: (← readItems steps false)
    | _ =>
      let item ← readNode steps false false
      return item :: (← readItems steps false)

/-- Reads a key and a value that are an item of a sequence in brackets. Where a key is missing, the
token in its place is taken for it. -/
def readPair : Nat → NodeReading (Node × Node)
  | 0 => failure
  | steps + 1 => do
    let key ←
      match ← peek with
      | .value | .comma | .closeSequence =>
        skip
        pure Node.empty
      | _ => readNode steps false false
    match ← peek with
    | .value =>
      skip
      match ← peek with
      | .comma | .closeSequence => return (key, Node.empty)
      | _ => return (key, ← readNode steps false false)
    | _ => return (key, Node.empty)

/-- Reads the entries of a mapping in braces up to its end; `first` says that none has been read. -/
def readEntries : Nat → (first : Bool) → NodeReading (List (Node × Node))
  | 0, _ => failure
  | steps + 1, first => do
    if (← peek) = .closeMapping then
      skip
      return []
    if !first then
      if (← peek) = .comma then skip else failure
    match ← peek with
    | .closeMapping =>
      skip
      return []
    | .key =>
      skip
      let key ←
        match ← peek with
        | .value | .comma | .closeMapping => pure Node.empty
        | _ => readNode steps false false
      let item ← readFlowValue steps
      return (key, item) :: (← readEntries steps false)
    | _ =>
      let key ← readNode steps false false
      return (key, Node.empty) :: (← readEntries steps false)

/-- Reads the value of a key in braces; it may be missing. -/
def readFlowValue : Nat → NodeReading Node
  | 0 => failure
  | steps + 1 => do
    match ← peek with
    | .value =>
      skip
      match ← peek with
      | .comma | .closeMapping => return Node.empty
      | _ => readNode steps false false
    | _ => return Node.empty

end

/-- Reads the directives in front of a document. The version is given at most once and has to be the
one that is understood; every handle is given at most once. The first argument bounds their
number. -/
def readDirectives : Nat → (versioned : Bool) → NodeReading Unit
  | 0, _ => failure
  | count + 1, versioned => do
    match ← peek with
    | .version major minor =>
      if versioned ∨ major ≠ 1 ∨ minor ≠ 1 then failure
      skip
      readDirectives count true
    | .handle handle meaning =>
      if ((← get).handles.lookup handle).isSome then failure
      skip
      modify fun progress => { progress with handles := (handle, meaning) :: progress.handles }
      readDirectives count versioned
    | _ => return

/-- The handles that stand for something in every document. -/
def standardHandles : List (String × String) := [("!", "!"), ("!!", standardTags)]

/-- Reads the end of a document: its mark, if there is one. -/
def readDocumentEnd : NodeReading Unit := do
  if (← peek) = .documentEnd then skip

/-- Reads the first document, if there is one. Directives call for the mark of its start; after that
mark the document may be empty. -/
def readDocument (steps : Nat) : NodeReading (Option Node) := do
  skip
  match ← peek with
  | .textEnd => return none
  | .version .. | .handle .. | .documentStart =>
    readDirectives steps false
    modify fun progress => { progress with handles := progress.handles ++ standardHandles }
    if (← peek) ≠ .documentStart then failure
    skip
    let node ←
      match ← peek with
      | .version .. | .handle .. | .documentStart | .documentEnd | .textEnd => pure Node.empty
      | _ => readNode steps true false
    readDocumentEnd
    return some node
  | _ =>
    modify fun progress => { progress with handles := standardHandles }
    let node ← readNode steps true false
    readDocumentEnd
    return some node

/-- Whether a document may hold a character: no control characters but the usual ones. -/
def isDocumentSymbol (symbol : Char) : Bool :=
  symbol ∈ ['\t', '\n', '\r', '\u0085'] || (' ' ≤ symbol && symbol ≤ '~') ||
    ('\u00A0' ≤ symbol && symbol != '\uFFFE' && symbol != '\uFFFF')

/-- The first document of a text; nothing if the text is malformed, and no node if it holds no
document. A byte order mark in front of the text does not count. -/
def firstDocument? (text : String) : Option (Option Node) := do
  let symbols := text.toList
  let symbols := if symbols.head? = some '\uFEFF' then symbols.tail else symbols
  if !symbols.all isDocumentSymbol then none
  let (document, _) ←
    (readDocument (16 * (symbols.length + 4))).run { stream := TokenStream.ofText symbols }
  return document

end GrammarKit.Document.Yaml
