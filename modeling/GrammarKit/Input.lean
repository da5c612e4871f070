import GrammarKit.Catalog
import GrammarKit.Journal
import GrammarKit.Settings
import GrammarKit.Text.Utf8
/-!
# Inputs

An input is a source with a cursor. Moving the cursor makes a new input and leaves the old one as it
was, so a parser goes back by holding on to an older input. An input also carries what parsers need
to know besides the source: which error a choice reports, whether to trace, and the messages.
-/

namespace GrammarKit

namespace Location

/-- A location as line and column. -/
def text (location : Location) : String :=
  Number.integerText location.line ++ ":" ++ Number.integerText location.column

/-- Whether a location comes before another in the source. -/
def before (location other : Location) : Bool := location.cursor < other.cursor

end Location

/-- The symbols between two locations. -/
structure Span where
  /-- Where the span starts. -/
  start : Location
  /-- Where the span ends. -/
  finish : Location
deriving DecidableEq, Repr

/-- A span as text: what start and end have in common is not written twice. -/
def Span.text (span : Span) : String :=
  if span.start.line = span.finish.line then
    if span.start.column = span.finish.column then span.start.text
    else span.start.text ++ ".." ++ Number.integerText span.finish.column
  else span.start.text ++ ".." ++ span.finish.text

/-- Which error a choice reports when all its branches fail. -/
inductive ErrorPolicy where
  /-- The error of the last branch. -/
  | last
  /-- The error furthest into the source, the latest of those when several are. -/
  | furthest
deriving DecidableEq, Repr, Inhabited

/-- The policy that a setting names; any word but one means the last error. -/
def ErrorPolicy.ofWord (word : String) : ErrorPolicy :=
  if word = "furthest" then .furthest else .last

/-- What parsers need to know besides the source. -/
structure Surroundings where
  /-- Which error a choice reports. -/
  errorPolicy : ErrorPolicy := .last
  /-- Whether named parsers are recorded. -/
  trace : Bool := false
  /-- The messages of errors. -/
  catalog : Catalog := Catalog.standard
deriving DecidableEq, Repr, Inhabited

/-- Reads the settings that parsers need. -/
def Surroundings.ofSettings (settings : Settings) (catalog : Catalog) :
    Except SettingFault Surroundings := do
  let policy ← settings.getWord Settings.errorPolicyPath
  let trace ← settings.getFlag Settings.parserTracePath
  return { errorPolicy := ErrorPolicy.ofWord policy, trace, catalog }

/-- The error of a rejected parse. -/
structure ParseError where
  /-- The family of the error. -/
  kind : String
  /-- What is wrong, in words. -/
  message : String
  /-- Where it is wrong. -/
  location : Location
  /-- The innermost named parser that was running, if any has a name. -/
  production : String := ""
deriving DecidableEq, Repr, Inhabited

/-- An error as text. -/
def ParseError.text (error : ParseError) : String :=
  if error.production = "" then error.message ++ " @ " ++ error.location.text
  else error.production ++ ": " ++ error.message ++ " @ " ++ error.location.text

/-- Whether an error is of a kind. -/
def ParseError.isOfKind (error : ParseError) (kind : String) : Bool := error.kind == kind

/-- An error inside a named parser, whose name it carries unless it has one already. -/
def ParseError.within (name : String) (error : ParseError) : ParseError :=
  if error.production = "" then { error with production := name } else error

/-- An error as text, behind a remark when it is wrapped into another. -/
def ParseError.report (error : ParseError) (wrapped : Bool) : String :=
  if wrapped then "wrapped: " ++ error.text else error.text

/-- A source with a cursor. -/
structure Input where
  /-- The symbols of the whole source. -/
  symbols : Array Char
  /-- How many symbols come before the cursor. -/
  cursor : Nat := 0
  /-- The line of the cursor, counted from one. -/
  line : Nat := 1
  /-- The column of the cursor, counted from one. -/
  column : Nat := 1
  /-- What parsers need to know besides the source. -/
  surroundings : Surroundings := {}
deriving Inhabited

namespace Input

/-- The input at the start of a source. -/
def ofSymbols (symbols : List Char) (surroundings : Surroundings) : Input :=
  { symbols := symbols.toArray, surroundings }

/-- Where the cursor is. -/
def location (input : Input) : Location := ⟨input.cursor, input.line, input.column⟩

/-- How many symbols are left. -/
def remaining (input : Input) : Nat := input.symbols.size - input.cursor

/-- Whether no symbols are left. -/
def isEmpty (input : Input) : Bool := input.remaining == 0

/-- The symbol under the cursor. -/
def peek? (input : Input) : Option Char := input.symbols[input.cursor]?

/-- The symbols that are left. -/
def rest (input : Input) : List Char := input.symbols.toList.drop input.cursor

/-- The text that is left. -/
def restText (input : Input) : String := String.ofList input.rest

/-- Moves the cursor past the given symbol; after a line break a new line starts. -/
def past (input : Input) (symbol : Char) : Input :=
  if symbol = '\n' then
    { input with cursor := input.cursor + 1, line := input.line + 1, column := 1 }
  else { input with cursor := input.cursor + 1, column := input.column + 1 }

/-- Moves the cursor by a number of symbols, but not past the end. -/
def advance : Nat → Input → Input
  | 0, input => input
  | count + 1, input =>
    match input.peek? with
    | some symbol => advance count (input.past symbol)
    | none => input

/-- An error at the cursor. -/
def fail (input : Input) (kind : String) (args : List Host) : ParseError :=
  { kind, message := input.surroundings.catalog.message kind args, location := input.location }

end Input

end GrammarKit
