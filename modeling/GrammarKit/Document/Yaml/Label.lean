import GrammarKit.Document.Yaml.Cursor
import GrammarKit.Document.Yaml.Token
import GrammarKit.Number.Numeral
import GrammarKit.Text.Utf8
/-!
# Names, tags and directives

A node may have a name, by which later nodes refer to it, and a tag, which says what it stands for.
A tag is written out in full between angle brackets, or shortened: then it starts with a handle, and
the lines in front of a document may say what handles stand for.
-/

namespace GrammarKit.Document.Yaml

/-- Whether a character can be part of a name. -/
def isNameSymbol (symbol : Char) : Bool := symbol.isAlphanum || symbol == '_' || symbol == '-'

/-- Reads a name after its mark. White space or one of a few marks has to follow. -/
def Cursor.name? (cursor : Cursor) : Option (String × Cursor) :=
  let (name, after) := cursor.advance.takeWhile isNameSymbol
  let ends :=
    startsBlank after.rest ||
      startsWithAny ['?', ':', ',', ']', '\x7d', '%', '@', '\x60'] after.rest
  if !name.isEmpty ∧ ends then some (String.ofList name, after) else none

/-- Whether a character can be part of a tag, apart from the percent sign of an escape. -/
def isTagSymbol (symbol : Char) : Bool :=
  isNameSymbol symbol ||
    symbol ∈ [';', '/', '?', ':', '@', '&', '=', '+', '$', ',', '.', '!', '~', '*', '\x27', '(',
      ')', '[', ']']

/-- The octet that an escape in a tag stands for. -/
def escapedOctet? : List Char → Option UInt8
  | '%' :: high :: low :: _ => (Number.natural? 16 [high, low]).map UInt8.ofNat
  | _ => none

/-- How many octets a character takes whose first octet is given. -/
def octetCount? (octet : UInt8) : Option Nat :=
  if octet < 0x80 then some 1
  else if 0xC0 ≤ octet ∧ octet < 0xE0 then some 2
  else if 0xE0 ≤ octet ∧ octet < 0xF0 then some 3
  else if 0xF0 ≤ octet ∧ octet < 0xF8 then some 4
  else none

/-- Reads a number of escaped octets, all of which go on with a character. -/
def takeTail : Nat → Cursor → Option (List UInt8 × Cursor)
  | 0, cursor => some ([], cursor)
  | count + 1, cursor => do
    let octet ← escapedOctet? cursor.rest
    if octet < 0x80 ∨ 0xC0 ≤ octet then none
    let (others, after) ← takeTail count (cursor.advanceBy 3)
    return (octet :: others, after)

/-- Reads a character by its escaped octets. -/
def takeEscapes (cursor : Cursor) : Option (List Char × Cursor) := do
  let lead ← escapedOctet? cursor.rest
  let count ← octetCount? lead
  let (tail, after) ← takeTail (count - 1) (cursor.advanceBy 3)
  return (Text.Utf8.decode (lead :: tail), after)

/-- Reads the characters of a tag. `written` is what has been read, in reverse. The first argument
bounds the steps; every step reads a character. -/
def tagTextFrom : Nat → (written : List Char) → Cursor → Option (List Char × Cursor)
  | 0, _, _ => none
  | steps + 1, written, cursor =>
    match cursor.rest with
    | '%' :: _ => do
      let (symbols, after) ← takeEscapes cursor
      tagTextFrom steps (symbols.reverse ++ written) after
    | symbol :: _ =>
      if isTagSymbol symbol then tagTextFrom steps (symbol :: written) cursor.advance
      else some (written.reverse, cursor)
    | [] => some (written.reverse, cursor)

/-- Reads the characters of a tag; there may be none. -/
def Cursor.tagText? (cursor : Cursor) : Option (List Char × Cursor) :=
  tagTextFrom (cursor.rest.length + 1) [] cursor

/-- Reads the characters of a tag, of which there has to be one. -/
def Cursor.someTagText? (cursor : Cursor) : Option (List Char × Cursor) := do
  let (symbols, after) ← cursor.tagText?
  if symbols.isEmpty then none else return (symbols, after)

/-- Reads what may be a handle: a mark, a name and another mark. The second part says whether the
last mark is there. -/
def Cursor.handle (cursor : Cursor) : List Char × Bool × Cursor :=
  let (name, after) := cursor.advance.takeWhile isNameSymbol
  match after.rest with
  | '!' :: _ => ('!' :: name ++ ['!'], true, after.advance)
  | _ => ('!' :: name, false, after)

/-- Reads a tag from its mark on; white space has to follow. A lone mark is a tag without a
handle. -/
def Cursor.tag? (cursor : Cursor) : Option (Token × Cursor) := do
  let (token, after) ←
    match cursor.rest with
    | '!' :: '<' :: _ => do
      let (symbols, after) ← (cursor.advanceBy 2).someTagText?
      if after.rest.head? ≠ some '>' then none
      pure (Token.tag "" (String.ofList symbols), after.advance)
    | _ =>
      match cursor.handle with
      | (handle, true, after) => do
        let (suffix, after) ← after.someTagText?
        pure (Token.tag (String.ofList handle) (String.ofList suffix), after)
      | (handle, false, after) => do
        let (symbols, after) ← after.tagText?
        let suffix := handle.tail ++ symbols
        if suffix.isEmpty then pure (Token.tag "" "!", after)
        else pure (Token.tag "!" (String.ofList suffix), after)
  if startsBlank after.rest then return (token, after) else none

/-- Reads a part of a version: one or two digits. -/
def takeVersionPart (cursor : Cursor) : Option (Nat × Cursor) := do
  let (digits, after) := cursor.takeWhile Char.isDigit
  if 2 < digits.length then none
  return (← Number.natural? 10 digits, after)

/-- Reads the version that a directive gives. -/
def takeVersion (cursor : Cursor) : Option (Token × Cursor) := do
  let (major, after) ← takeVersionPart cursor.skipGap
  if after.rest.head? ≠ some '.' then none
  let (minor, after) ← takeVersionPart after.advance
  return (.version major minor, after)

/-- Reads the handle and its meaning that a directive gives. -/
def takeHandle (cursor : Cursor) : Option (Token × Cursor) := do
  let start := cursor.skipGap
  if start.rest.head? ≠ some '!' then none
  let (handle, closed, after) := start.handle
  if !closed ∧ handle ≠ ['!'] then none
  if !startsWithAny [' ', '\t'] after.rest then none
  let (meaning, after) ← after.skipGap.someTagText?
  if !startsBlank after.rest then none
  return (.handle (String.ofList handle) (String.ofList meaning), after)

/-- Reads a directive from its mark to the end of the line. -/
def Cursor.directive? (cursor : Cursor) : Option (Token × Cursor) := do
  let (name, after) := cursor.advance.takeWhile isNameSymbol
  if !startsBlank after.rest then none
  let (token, after) ←
    match String.ofList name with
    | "YAML" => takeVersion after
    | "TAG" => takeHandle after
    | _ => none
  let after := after.skipGap.skipComment
  if startsBreak after.rest then return (token, after.skipBreak) else none

end GrammarKit.Document.Yaml
