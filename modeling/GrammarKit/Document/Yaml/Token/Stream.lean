import GrammarKit.Document.Yaml.Block
import GrammarKit.Document.Yaml.Label
/-!
# Streams of tokens

The tokens of a text one by one, as far as they are asked for. A scalar, a collection or a reference
may turn out to be a key only when a colon follows it, so tokens wait in a queue, and the mark of a
key is put in front of tokens that wait there. A key without a mark of its own has to end on its
line and within a number of characters. What goes wrong in tokens that nobody asks for does not
count; a few tokens more than needed are always read.
-/

namespace GrammarKit.Document.Yaml

/-- A place where a key without a mark of its own may start. -/
structure KeyStart where
  /-- Whether a key can still start there. -/
  possible : Bool := false
  /-- Whether a key has to start there, because nothing else could stand in its column. -/
  required : Bool := false
  /-- Whether the token there waits until it is known whether a key starts. -/
  waits : Bool := false
  /-- The number of the token there. -/
  number : Nat := 0
  /-- Where it is. -/
  place : Place := {}

/-- The tokens of a text. -/
structure TokenStream where
  /-- A bound on the number of characters. -/
  size : Nat
  /-- Where reading has come to. -/
  cursor : Cursor
  /-- The tokens that have been read and not yet been taken. -/
  queue : List Token := [.textStart]
  /-- How many tokens have been taken. -/
  taken : Nat := 0
  /-- How many brackets and braces are open. -/
  depth : Nat := 0
  /-- Whether a key may start here. -/
  keyAllowed : Bool := true
  /-- The last place where a key may start, outside of all brackets and inside of every open one. -/
  keys : Array KeyStart := #[{}]
  /-- The column of the innermost collection by columns; `-1` if there is none. -/
  indent : Int := -1
  /-- The columns of the collections around it. -/
  outer : List Int := []
  /-- How many collections by columns are open. -/
  levels : Nat := 0
  /-- Whether the text has a second byte order mark in front. -/
  marked : Bool := false

/-- Reading tokens, which may fail. -/
abbrev Tokenizing := StateT TokenStream Option

namespace TokenStream

/-- How many characters behind its start a key may end. -/
def keyReach : Nat := 1024

/-- How deep collections may be nested. -/
def depthLimit : Nat := 10000

/-- How many tokens are read ahead. -/
def lookahead : Nat := 3

/-- The number of the token that is read next. -/
def nextNumber (stream : TokenStream) : Nat := stream.taken + stream.queue.length

/-- Changes the place where a key may start at a depth. -/
def setKey (stream : TokenStream) (depth : Nat) (change : KeyStart → KeyStart) : TokenStream :=
  { stream with keys := stream.keys.modify depth change }

/-- No key starts at the place that is known at a depth. -/
def dropKey (stream : TokenStream) (depth : Nat) : TokenStream :=
  stream.setKey depth fun key => { key with possible := false, waits := false }

/-- Puts a token at the end of the queue. -/
def add (token : Token) : Tokenizing Unit :=
  modify fun stream => { stream with queue := stream.queue ++ [token] }

/-- Puts a token in front of the token with a number, if that one still waits. -/
def insertBefore (number : Nat) (token : Token) : Tokenizing Unit :=
  modify fun stream =>
    if number < stream.taken then { stream with queue := stream.queue ++ [token] }
    else
      let position := number - stream.taken
      { stream with
        queue := stream.queue.take position ++ token :: stream.queue.drop position }

/-- Goes to a place in the text. -/
def moveTo (cursor : Cursor) : Tokenizing Unit := modify fun stream => { stream with cursor }

/-- Says whether a key may start here. -/
def allowKey (allowed : Bool) : Tokenizing Unit :=
  modify fun stream => { stream with keyAllowed := allowed }

/-- Whether a key can start at the place that is known at a depth. When the text has gone on too far
it cannot; then nothing else could stand where a key is required. -/
def checkKey (depth : Nat) : Tokenizing Bool := do
  let stream ← get
  match stream.keys[depth]? with
  | none => return false
  | some key =>
    if !key.possible then return false
    let here := stream.cursor.place
    if key.place.line = here.line ∧ here.index ≤ key.place.index + keyReach then return true
    if key.required then failure
    set (stream.dropKey depth)
    return false

/-- Gives up the place where a key may start at the present depth. -/
def forgetKey : Tokenizing Unit := do
  let stream ← get
  match stream.keys[stream.depth]? with
  | some key =>
    if key.possible ∧ key.required then failure
    set (stream.dropKey stream.depth)
  | none => return

/-- Remembers that a key may start here, if one is allowed. -/
def rememberKey : Tokenizing Unit := do
  let stream ← get
  if stream.keyAllowed then
    let place := stream.cursor.place
    let required := stream.depth == 0 && stream.indent == place.column
    forgetKey
    modify fun stream =>
      stream.setKey stream.depth fun _ => ⟨true, required, true, stream.nextNumber, place⟩

/-- Opens a collection by columns whose parts stand in a column further to the right; its token
comes in front of the token with a number, or last. Inside of brackets columns do not count. -/
def openBlock (column : Nat) (number? : Option Nat) (token : Token) : Tokenizing Unit := do
  let stream ← get
  if stream.depth = 0 ∧ stream.indent < column then
    if depthLimit ≤ stream.levels then failure
    set { stream with
      indent := column, outer := stream.indent :: stream.outer, levels := stream.levels + 1 }
    match number? with
    | some number => insertBefore number token
    | none => add token

/-- The stream without the collections by columns that stand further to the right than a column. -/
def closedTo (column : Int) : List Int → TokenStream → TokenStream
  | [], stream => stream
  | around :: others, stream =>
    if column < stream.indent then
      closedTo column others
        { stream with
          queue := stream.queue ++ [.blockEnd], indent := around, outer := others,
          levels := stream.levels - 1 }
    else stream

/-- Closes the collections by columns that stand further to the right than a column. -/
def closeBlocks (column : Int) : Tokenizing Unit :=
  modify fun stream => if stream.depth = 0 then closedTo column stream.outer stream else stream

/-- Moves past the comments that follow one another from here on, with nothing but white space in
between. The first argument bounds their number. -/
def skipComments : Nat → Cursor → Cursor
  | 0, cursor => cursor
  | count + 1, cursor =>
    let cursor := cursor.skipLine
    let between := (cursor.rest.drop 1).takeWhile fun symbol =>
      isGap symbol || symbol == '\n' || symbol == '\r'
    let ahead := cursor.rest.drop (between.length + 1)
    if startsWithAny ['\n', '\r'] cursor.rest ∧ between.length + 1 < commentReach ∧
        ahead.head? = some '#' then
      skipComments count (cursor.advanceBy (between.length + 1))
    else cursor

/-- The place from which a line is read. After a second byte order mark every line is taken to start
with a mark of its own: whatever stands first in it is passed over, as long as the text goes on for
a few characters. -/
def lineStart (stream : TokenStream) : Cursor :=
  let cursor := stream.cursor
  match cursor.rest with
  | symbol :: rest =>
    if stream.marked ∧ cursor.place.column = 0 ∧ (rest.drop 2) ≠ [] then
      ⟨rest, { cursor.place with
        index := cursor.place.index + 1, column := 1,
        breaks := if isGap symbol then cursor.place.breaks else 0 }⟩
    else cursor
  | [] => cursor

/-- Moves past white space and comments between tokens. Tabs count as white space inside of brackets
and where no key may start; outside of brackets a key may start on every new line. The first
argument bounds the lines. -/
def skipSpace : Nat → TokenStream → TokenStream
  | 0, stream => stream
  | count + 1, stream =>
    let tabs := 0 < stream.depth || !stream.keyAllowed
    let cursor := (lineStart stream).skipWhile fun symbol =>
      symbol == ' ' || (tabs && symbol == '\t')
    let cursor :=
      if cursor.rest.head? = some '#' then skipComments (stream.size + 1) cursor else cursor
    match cursor.rest with
    | [] => { stream with cursor }
    | symbol :: _ =>
      if isBreak symbol then
        skipSpace count
          { stream with
            cursor := cursor.skipBreak, keyAllowed := stream.depth == 0 || stream.keyAllowed }
      else { stream with cursor }

/-- Moves past a comment that follows a token on its line. -/
def skipTrailing (cursor : Cursor) : Cursor :=
  let gap := cursor.rest.takeWhile isGap
  if cursor.place.breaks = 0 ∧ gap.length < commentReach ∧
      (cursor.rest.drop gap.length).head? = some '#' then
    cursor.skipLine
  else cursor

/-- Moves past a comment that follows a token on its line. The mark of an item has none: what
follows it belongs to the item. -/
def endToken : Tokenizing Unit :=
  modify fun stream =>
    if stream.queue.getLast? = some .item then stream
    else { stream with cursor := skipTrailing stream.cursor }

/-- The place at the end of the text, which ends its last line too. -/
def endPlace (place : Place) : Place :=
  if place.column = 0 then place else { place with line := place.line + 1, column := 0 }

/-- Reads the end of the text. -/
def readEnd : Tokenizing Unit := do
  moveTo ⟨[], endPlace (← get).cursor.place⟩
  closeBlocks (-1)
  forgetKey
  allowKey false
  add .textEnd

/-- Reads a mark of so many characters that stands between documents. -/
def readBetween (after : Cursor) (token : Token) : Tokenizing Unit := do
  closeBlocks (-1)
  forgetKey
  allowKey false
  moveTo after
  add token

/-- Reads a token of one character. -/
def readMark (token : Token) : Tokenizing Unit := do
  moveTo (← get).cursor.advance
  add token

/-- Reads an opening bracket or brace. -/
def readOpening (token : Token) : Tokenizing Unit := do
  rememberKey
  let stream ← get
  if depthLimit ≤ stream.depth then failure
  let key : KeyStart := { number := stream.nextNumber, place := stream.cursor.place }
  set { stream with keys := stream.keys.push key, depth := stream.depth + 1, keyAllowed := true }
  readMark token

/-- Goes back to the depth outside of the innermost bracket. If no key has been looked for since it
was opened, its token does not wait any longer. -/
def leaveDepth : Tokenizing Unit :=
  modify fun stream =>
    if stream.depth = 0 then stream
    else
      let number := (stream.keys.back?.map (·.number)).getD 0
      let stream := { stream with keys := stream.keys.pop, depth := stream.depth - 1 }
      stream.setKey stream.depth fun key =>
        if key.number = number then { key with waits := false } else key

/-- Reads a closing bracket or brace. -/
def readClosing (token : Token) : Tokenizing Unit := do
  forgetKey
  leaveDepth
  allowKey false
  readMark token

/-- Reads a comma. -/
def readComma : Tokenizing Unit := do
  forgetKey
  allowKey true
  readMark .comma

/-- Opens a collection by columns at the present place, where a part of it starts. Outside of
brackets this is allowed only where a key may start. -/
def openHere (token : Token) : Tokenizing Unit := do
  let stream ← get
  if stream.depth = 0 then
    if !stream.keyAllowed then failure
    openBlock stream.cursor.place.column none token

/-- Reads the mark of an item. -/
def readItem : Tokenizing Unit := do
  openHere .blockSequence
  forgetKey
  allowKey true
  readMark .item

/-- Reads the mark of a key. -/
def readKey : Tokenizing Unit := do
  openHere .blockMapping
  forgetKey
  allowKey ((← get).depth == 0)
  readMark .key

/-- Reads the mark of a value. If a key may have started before, it did. -/
def readValue : Tokenizing Unit := do
  let depth := (← get).depth
  if ← checkKey depth then
    let key := (← get).keys.getD depth {}
    insertBefore key.number .key
    openBlock key.place.column (some key.number) .blockMapping
    modify (·.dropKey depth)
    allowKey false
  else
    openHere .blockMapping
    allowKey (depth == 0)
  readMark .value

/-- Reads a token that may start a key. -/
def readLabel (found : Option (Token × Cursor)) : Tokenizing Unit := do
  rememberKey
  allowKey false
  let (token, after) ← found
  moveTo after
  add token

/-- Reads a plain or quoted scalar. After the end of a line a key may start. -/
def readScalar (plain : Bool) (found : Option Scanned) : Tokenizing Unit := do
  readLabel (found.map fun scanned => (.scalar plain scanned.text, scanned.after))
  if (found.map (·.endsLine)).getD false then allowKey true

/-- Reads a block scalar. -/
def readBlock (folded : Bool) : Tokenizing Unit := do
  forgetKey
  allowKey true
  let stream ← get
  let scanned ← stream.cursor.block? folded stream.indent
  moveTo scanned.after
  add (.scalar false scanned.text)

/-- Reads a token that is part of a document, from its first character on. -/
def readContent (symbol : Char) (rest : List Char) : Tokenizing Unit := do
  let stream ← get
  let cursor := stream.cursor
  let flow : Bool := 0 < stream.depth
  match symbol with
  | '[' => readOpening .openSequence
  | '\x7b' => readOpening .openMapping
  | ']' => readClosing .closeSequence
  | '\x7d' => readClosing .closeMapping
  | ',' => readComma
  | '*' => readLabel (cursor.name?.map fun (name, after) => (.alias name, after))
  | '&' => readLabel (cursor.name?.map fun (name, after) => (.anchor name, after))
  | '!' => readLabel cursor.tag?
  | '\x27' => readScalar false (cursor.quoted? '\x27')
  | '"' => readScalar false (cursor.quoted? '"')
  | _ =>
    if symbol = '-' ∧ startsBlank rest then readItem
    else if symbol = '?' ∧ (flow ∨ startsBlank rest) then readKey
    else if symbol = ':' ∧ (flow ∨ startsBlank rest) then readValue
    else if (symbol = '|' ∨ symbol = '>') ∧ !flow then readBlock (symbol == '>')
    else if startsPlain flow (symbol :: rest) then
      readScalar true (cursor.plain? flow (stream.indent + 1))
    else failure

/-- Reads the next token, and with it the tokens that only columns say. -/
def read : Tokenizing Unit := do
  modify fun stream => skipSpace (stream.size + 1) stream
  let cursor := (← get).cursor
  closeBlocks cursor.place.column
  match cursor.rest with
  | [] => readEnd
  | symbol :: rest =>
    if cursor.place.column = 0 ∧ symbol = '%' then
      let (token, after) ← cursor.directive?
      readBetween after token
    else if cursor.atMarker then
      readBetween (cursor.advanceBy 3) (if symbol = '-' then .documentStart else .documentEnd)
    else
      readContent symbol rest
      endToken

/-- Whether the first token of the queue waits until it is known whether a key starts there. -/
def waiting : Tokenizing Bool := do
  let stream ← get
  match stream.keys.findIdx? fun key => key.waits && key.number == stream.taken with
  | some depth => checkKey depth
  | none => return false

/-- Reads tokens until the first one of the queue can be taken. The first argument bounds the number
of tokens: every one takes a character, apart from those at the end. -/
def fill : Nat → Tokenizing Unit
  | 0 => failure
  | count + 1 => do
    if lookahead ≤ (← get).queue.length then
      if !(← waiting) then return
    read
    fill count

/-- The next token, which stays where it is. -/
def peek : Tokenizing Token := do
  fill ((← get).size + lookahead + 2)
  (← get).queue.head?

/-- Takes the next token away. -/
def skip : Tokenizing Unit :=
  modify fun stream => { stream with queue := stream.queue.tail, taken := stream.taken + 1 }

/-- The tokens of a text. -/
def ofText (symbols : List Char) : TokenStream :=
  { size := symbols.length, cursor := ⟨symbols, {}⟩, marked := symbols.head? == some '\uFEFF' }

end TokenStream

end GrammarKit.Document.Yaml
