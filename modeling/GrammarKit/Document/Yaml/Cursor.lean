/-!
# Places in a document

Where a reader is in a document: the text that is left and the place of its first character. The
structure of a document hangs on lines and columns, so every step keeps them up to date. A line
ends with a line feed, a carriage return, both in this order, or one of three marks of wider
character sets.
-/

namespace GrammarKit.Document.Yaml

/-- Whether a character is a space or a tab. -/
def isGap (symbol : Char) : Bool := symbol == ' ' || symbol == '\t'

/-- Whether a character ends a line. -/
def isBreak (symbol : Char) : Bool :=
  symbol ∈ ['\n', '\r', '\u0085', '\u2028', '\u2029']

/-- Whether a character is white space. -/
def isBlank (symbol : Char) : Bool := isGap symbol || isBreak symbol

/-- Whether a text starts with white space or is at its end. -/
def startsBlank : List Char → Bool
  | [] => true
  | symbol :: _ => isBlank symbol

/-- Whether a text starts with a line break or is at its end. -/
def startsBreak : List Char → Bool
  | [] => true
  | symbol :: _ => isBreak symbol

/-- Whether a text starts with one of some marks. -/
def startsWithAny (marks : List Char) : List Char → Bool
  | [] => false
  | symbol :: _ => marks.contains symbol

/-- Whether a text starts with one of the two marks that bound a document. -/
def startsMarker : List Char → Bool
  | '-' :: '-' :: '-' :: rest => startsBlank rest
  | '.' :: '.' :: '.' :: rest => startsBlank rest
  | _ => false

/-- What a line break adds to the text of a scalar: a line feed, or itself if it belongs to a wider
character set. A carriage return in front of a line feed adds nothing, for the line feed does. -/
def breakText (symbol : Char) (rest : List Char) : Option Char :=
  if symbol = '\u2028' ∨ symbol = '\u2029' then some symbol
  else if symbol = '\r' ∧ rest.head? = some '\n' then none
  else some '\n'

/-- A place in a text. -/
structure Place where
  /-- How many characters come before it. -/
  index : Nat := 0
  /-- The line, counted from zero. -/
  line : Nat := 0
  /-- The column, counted from zero. -/
  column : Nat := 0
  /-- How many lines have ended since the last character that is not white space. -/
  breaks : Nat := 0
deriving DecidableEq, Repr

/-- The place after a character; the text behind the character tells whether a carriage return ends
the line itself. -/
def Place.after (place : Place) (symbol : Char) (rest : List Char) : Place :=
  if isBreak symbol then
    if (breakText symbol rest).isNone then { place with index := place.index + 1 }
    else ⟨place.index + 1, place.line + 1, 0, place.breaks + 1⟩
  else
    { place with
      index := place.index + 1, column := place.column + 1,
      breaks := if isGap symbol then place.breaks else 0 }

/-- The text that is left and its place. -/
structure Cursor where
  /-- The text that is left. -/
  rest : List Char
  /-- The place of its first character. -/
  place : Place := {}

namespace Cursor

/-- Moves past one character. -/
def advance (cursor : Cursor) : Cursor :=
  match cursor.rest with
  | [] => cursor
  | symbol :: rest => ⟨rest, cursor.place.after symbol rest⟩

/-- Moves past a number of characters. -/
def advanceBy : Nat → Cursor → Cursor
  | 0, cursor => cursor
  | count + 1, cursor => advanceBy count cursor.advance

/-- The characters in front that satisfy a test, and the place behind them. -/
def takeWhile (cursor : Cursor) (test : Char → Bool) : List Char × Cursor :=
  let taken := cursor.rest.takeWhile test
  (taken, cursor.advanceBy taken.length)

/-- Moves past the characters in front that satisfy a test. -/
def skipWhile (cursor : Cursor) (test : Char → Bool) : Cursor := (cursor.takeWhile test).2

/-- Moves past spaces and tabs. -/
def skipGap (cursor : Cursor) : Cursor := cursor.skipWhile isGap

/-- Moves to the end of the line. -/
def skipLine (cursor : Cursor) : Cursor := cursor.skipWhile fun symbol => !isBreak symbol

/-- Moves past a line break, if one stands here. -/
def skipBreak (cursor : Cursor) : Cursor :=
  match cursor.rest with
  | '\r' :: '\n' :: _ => cursor.advance.advance
  | symbol :: _ => if isBreak symbol then cursor.advance else cursor
  | [] => cursor

/-- Whether one of the marks that bound a document stands here, at the start of a line. -/
def atMarker (cursor : Cursor) : Bool := cursor.place.column == 0 && startsMarker cursor.rest

/-- Moves past a comment to the end of its line, if one starts here. -/
def skipComment (cursor : Cursor) : Cursor :=
  if cursor.rest.head? = some '#' then cursor.skipLine else cursor

end Cursor

/-- How far a comment is looked for behind a token or another comment. -/
def commentReach : Nat := 512

end GrammarKit.Document.Yaml
