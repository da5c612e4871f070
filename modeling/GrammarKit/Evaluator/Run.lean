import GrammarKit.Expr
import GrammarKit.Journal
/-!
# Runs of the evaluator

A run keeps a ledger, the trace records and the counts of calls, and ends with a result or with a
fault. A fault ends a run at once but leaves the ledger as it was then. Exceptions of the expression
language are not faults: they are values.
-/

namespace GrammarKit

/-- Why a run of the evaluator had to stop. -/
inductive EvalFault where
  /-- A call of a function that is not defined. -/
  | undefinedFunction (name : String)
  /-- A use of a context that is not registered. -/
  | unregisteredContext (tag : String)
  /-- A hole was to be evaluated. -/
  | hole
  /-- The text of an expression with a hole was needed for the trace. -/
  | untraceable
  /-- Defined functions called each other too deeply. -/
  | endless
deriving DecidableEq, Repr

/-- What a run writes down. -/
structure Ledger where
  /-- The trace records, in order. -/
  records : Array Record := #[]
  /-- How often each counted name was used, the latest use first. -/
  uses : List String := []
  /-- How often a continuation that was given from outside was run. -/
  turns : Nat := 0
deriving Inhabited

/-- How often a name was counted. -/
def Ledger.count (ledger : Ledger) (name : String) : Nat := ledger.uses.count name

/-- A run that gives an `α`, keeps a ledger and may stop with a fault. -/
abbrev Run (α : Type) := ExceptT EvalFault (StateM Ledger) α

namespace Run

/-- Writes a trace record. -/
def trace (record : Record) : Run Unit :=
  modify fun ledger => { ledger with records := ledger.records.push record }

/-- Counts one more use of a name. -/
def tally (name : String) : Run Unit :=
  modify fun ledger => { ledger with uses := name :: ledger.uses }

/-- Counts one more run of a continuation that was given from outside. -/
def turn : Run Unit := modify fun ledger => { ledger with turns := ledger.turns + 1 }

/-- Goes on with the value of a run unless it is an exception, which is then the result. -/
def unlessRaised {β : Type} (run : Run (Value β)) (next : Value β → Run (Value β)) :
    Run (Value β) := do
  match ← run with
  | .exception raised => return .exception raised
  | value => next value

end Run

end GrammarKit
