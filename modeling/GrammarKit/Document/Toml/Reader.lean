import GrammarKit.Document.Toml.Scalar
import GrammarKit.Document.Toml.Tree
/-!
# Reading a document of tables

A document is a list of lines. A line gives a value to a key, or it is a header that says to which
table the lines below it belong. Values may go on over several lines only inside of brackets and
texts.
-/

namespace GrammarKit.Document.Toml

/-- Whether a character can be part of a key without quotation marks. -/
def isBareSymbol (symbol : Char) : Bool := symbol.isAlphanum || symbol == '_' || symbol == '-'

/-- Reads one part of a key. -/
def takePart (symbols : List Char) : Option (String × List Char) :=
  let bare := symbols.takeWhile isBareSymbol
  if bare.isEmpty then takeQuoted symbols
  else some (String.ofList bare, symbols.drop bare.length)

/-- Reads a key: parts with dots between them. The first argument bounds the number of parts. -/
def takeKey : Nat → List Char → Option (List String × List Char)
  | 0, _ => none
  | count + 1, symbols => do
    let (part, rest) ← takePart symbols
    match skipGap rest with
    | '.' :: more =>
      let (parts, rest) ← takeKey count (skipGap more)
      return (part :: parts, rest)
    | rest => return ([part], rest)

/-- Skips a comment up to the end of its line. -/
def skipComment : List Char → Option (List Char)
  | '#' :: rest =>
    let line := rest.takeWhile (· != '\n')
    let after := rest.drop line.length
    let returns := !after.isEmpty && line.getLast? == some '\r'
    let body := if returns then line.dropLast else line
    if body.all isTextSymbol then some (if returns then '\r' :: after else after) else none
  | symbols => some symbols

/-- Skips white space, comments and line breaks. The first argument bounds the number of lines. -/
def skipLines : Nat → List Char → Option (List Char)
  | 0, symbols => some symbols
  | count + 1, symbols => do
    let rest ← skipComment (skipGap symbols)
    match takeBreak rest with
    | some after => skipLines count after
    | none => return rest

mutual

/-- Reads a value. The first argument bounds the steps; every other step reads a character. -/
def takeValue : Nat → List Char → Option (Host × List Char)
  | 0, _ => none
  | steps + 1, symbols =>
    match symbols with
    | 't' :: 'r' :: 'u' :: 'e' :: rest => some (.bool true, rest)
    | 'f' :: 'a' :: 'l' :: 's' :: 'e' :: rest => some (.bool false, rest)
    | '"' :: _ | '\x27' :: _ => (takeText symbols).map fun (text, rest) => (.text text, rest)
    | '[' :: rest => (takeItems steps true rest).map fun (items, rest) => (.list items, rest)
    | '\x7b' :: rest => do
      let (entries, rest) ← takeEntries steps true [] rest
      return ((Item.table .defined entries).toHost, rest)
    | _ => takeScalar symbols

/-- Reads the items of a list up to its end. Items have commas between them; one more may follow
the last. -/
def takeItems : Nat → (first : Bool) → List Char → Option (List Host × List Char)
  | 0, _, _ => none
  | steps + 1, first, symbols => do
    let rest ← skipLines symbols.length symbols
    let rest ←
      match rest with
      | ',' :: more => if first then none else skipLines more.length more
      | ']' :: _ => some rest
      | _ => if first then some rest else none
    match rest with
    | ']' :: rest => return ([], rest)
    | _ =>
      let (item, rest) ← takeValue steps rest
      let (items, rest) ← takeItems steps false rest
      return (item :: items, rest)

/-- Reads the entries of a table in braces up to its end, all on one line. -/
def takeEntries :
    Nat → (first : Bool) → Item.Entries → List Char → Option (Item.Entries × List Char)
  | 0, _, _, _ => none
  | steps + 1, first, entries, symbols =>
    match skipGap symbols with
    | '\x7d' :: rest => some (entries, rest)
    | rest => do
      let rest ← if first then some rest else takeMark ',' rest
      let (key, content, rest) ← takePair steps (skipGap rest)
      takeEntries steps false (← Item.assign? content key entries) rest

/-- Reads a key and its value. -/
def takePair : Nat → List Char → Option (List String × Host × List Char)
  | 0, _ => none
  | steps + 1, symbols => do
    let (key, rest) ← takeKey symbols.length symbols
    let rest ← takeMark '=' rest
    let (content, rest) ← takeValue steps (skipGap rest)
    return (key, content, rest)

end

/-- How far a document has been read. -/
structure Outline where
  /-- What has been said. -/
  entries : Item.Entries := []
  /-- The path of the table that the present section fills; empty at the start. -/
  place : List String := []

namespace Outline

/-- The outline at the start of a section with a header. -/
def enter? (outline : Outline) (change : String → Item.Entries → Option Item.Entries)
    (path : List String) : Option Outline := do
  return ⟨← Item.changeAt? change path (Item.closedEntries outline.entries), path⟩

/-- The outline with a value for a key of the present section. -/
def assign? (outline : Outline) (key : List String) (content : Host) : Option Outline := do
  let entries ←
    if outline.place = [] then Item.assign? content key outline.entries
    else Item.changeAt? (Item.assignBelow? content key) outline.place outline.entries
  return { outline with entries }

/-- Reads a header after its first bracket. -/
def takeHeader (outline : Outline) : List Char → Option (Outline × List Char)
  | '[' :: rest => do
    let (path, rest) ← takeKey rest.length (skipGap rest)
    let rest ← takeMark ']' (← takeMark ']' rest)
    return (← outline.enter? Item.append? path, rest)
  | rest => do
    let (path, rest) ← takeKey rest.length (skipGap rest)
    let rest ← takeMark ']' rest
    return (← outline.enter? Item.define? path, rest)

/-- Reads what a line says. -/
def takeLine (outline : Outline) (symbols : List Char) : Option (Outline × List Char) :=
  match symbols with
  | [] | '#' :: _ | '\n' :: _ | '\r' :: _ => some (outline, symbols)
  | '[' :: rest => outline.takeHeader rest
  | _ => do
    let (key, content, rest) ← takePair (2 * symbols.length + 2) symbols
    return (← outline.assign? key content, rest)

/-- Reads all lines. The first argument bounds their number. -/
def takeLines : Nat → Outline → List Char → Option Outline
  | 0, _, _ => none
  | count + 1, outline, symbols => do
    let (outline, rest) ← outline.takeLine (skipGap symbols)
    let rest ← skipComment (skipGap rest)
    if rest.isEmpty then return outline
    takeLines count outline (← takeBreak rest)

end Outline

end GrammarKit.Document.Toml
