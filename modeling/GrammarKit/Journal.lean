/-!
# The journal

Parsers and evaluators that are asked to trace their work write records into a journal. A record
keeps what happened; its message and its attributes are read off it.
-/

namespace GrammarKit

/-- A place in a source: how many symbols come before it, and its line and column, both counted from
one and meant for display only. -/
structure Location where
  /-- The number of symbols before the place. -/
  cursor : Int
  /-- The line, counted from one. -/
  line : Int
  /-- The column, counted from one. -/
  column : Int
deriving DecidableEq, Repr, Inhabited

/-- One thing that happened during a traced run. -/
inductive Record where
  /-- A named parser starts at a place. -/
  | enter (production : String) (start : Location)
  /-- A named parser ends: where it left off, or where its error is. -/
  | leave (production : String) (accepted : Bool) (finish : Location)
  /-- The evaluator takes up an expression, at a depth of nesting. -/
  | evaluate (expression : String) (depth : Nat)
  /-- A remark without attributes. -/
  | remark (text : String)
deriving DecidableEq, Repr

/-- The value of a record's attribute. -/
inductive Attribute where
  /-- A text. -/
  | text (text : String)
  /-- A number. -/
  | number (number : Int)
  /-- A truth value. -/
  | flag (truth : Bool)
deriving DecidableEq, Repr

namespace Record

/-- How important a record is: all of them are for debugging. -/
def level (_ : Record) : String := "DEBUG"

/-- What a record says. -/
def message : Record → String
  | .enter .. => "enter"
  | .leave .. => "leave"
  | .evaluate .. => "eval"
  | .remark text => text

/-- The named attributes of a record, in order. -/
def attributes : Record → List (String × Attribute)
  | .enter production start =>
    [("production", .text production), ("line", .number start.line),
      ("column", .number start.column)]
  | .leave production accepted finish =>
    [("production", .text production), ("accepted", .flag accepted), ("line", .number finish.line),
      ("column", .number finish.column)]
  | .evaluate expression depth => [("expr", .text expression), ("depth", .number depth)]
  | .remark _ => []

end Record

end GrammarKit
