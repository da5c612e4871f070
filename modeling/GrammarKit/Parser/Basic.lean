import GrammarKit.Input
/-!
# Parsers

A parser looks at an input and either accepts a value and an input further on, or rejects with an
error. Along the way it may write records, and a few programming errors stop it altogether. This
module has the type and the combinators that run parsers one after the other or one instead of
another.
-/

namespace GrammarKit

/-- Why a parse had to stop without a verdict. -/
inductive ParseFault where
  /-- A rejection without an error. -/
  | rejectionWithoutError
  /-- A reference to a rule that the grammar does not have. -/
  | missingRule (name : String)
  /-- The parse would never end. -/
  | endless
deriving DecidableEq, Repr

/-- The verdict of a parse. -/
inductive Verdict (α : Type) where
  /-- A value and the input after it. -/
  | accept (value : α) (rest : Input)
  /-- The error that made the parse fail. -/
  | reject (error : ParseError)
  /-- The parse had to stop. -/
  | fault (fault : ParseFault)
deriving Inhabited

/-- Where a verdict leaves off: whether it accepts, and the place after the accepted value or that
of the error. -/
def Verdict.finish? {α : Type} : Verdict α → Option (Bool × Location)
  | .accept _ rest => some (true, rest.location)
  | .reject error => some (false, error.location)
  | .fault _ => none

/-- A verdict and what was recorded on the way to it. -/
structure Outcome (α : Type) where
  /-- The records, in order. -/
  records : List Record := []
  /-- The verdict. -/
  verdict : Verdict α
deriving Inhabited

/-- A function from inputs to outcomes. -/
abbrev Parser (α : Type) := Input → Outcome α

/-- Values that can be shown in messages. -/
class Shown (α : Type) where
  /-- The host value that stands for a value. -/
  toHost : α → Host

instance : Shown Host := ⟨id⟩

instance : Shown CodePoint := ⟨.symbol⟩

/-- The host value that stands for a value in messages, its symbols as text. -/
def Shown.display {α : Type} [Shown α] (value : α) : Host := (Shown.toHost value).display

namespace Outcome

variable {α β : Type}

/-- The outcome with records in front. -/
def after (records : List Record) (outcome : Outcome α) : Outcome α :=
  ⟨records ++ outcome.records, outcome.verdict⟩

/-- Goes on after an accepted value. -/
def andThen (outcome : Outcome α) (next : α → Input → Outcome β) : Outcome β :=
  match outcome.verdict with
  | .accept value rest => after outcome.records (next value rest)
  | .reject error => ⟨outcome.records, .reject error⟩
  | .fault fault => ⟨outcome.records, .fault fault⟩

/-- Goes on after an error. -/
def orElse (outcome : Outcome α) (next : ParseError → Outcome α) : Outcome α :=
  match outcome.verdict with
  | .reject error => after outcome.records (next error)
  | _ => outcome

end Outcome

namespace Parser

variable {α β γ : Type}

/-- Accepts a value without consuming anything. -/
def pure (value : α) : Parser α := fun input => { verdict := .accept value input }

/-- Rejects with an error of a kind at the cursor. -/
def fail (kind : String) (args : List Host) : Parser α :=
  fun input => { verdict := .reject (input.fail kind args) }

/-- Stops with a fault. -/
def stop (fault : ParseFault) : Parser α := fun _ => { verdict := .fault fault }

/-- Replaces the accepted value by its image. -/
def map (f : α → β) (parser : Parser α) : Parser β := fun input =>
  (parser input).andThen fun value rest => { verdict := .accept (f value) rest }

/-- Why a conversion refuses a value. -/
inductive Refusal where
  /-- A reason in words. -/
  | reason (text : String)
  /-- A ready-made parse error. -/
  | error (error : ParseError)

/-- Converts the accepted value; a refusal with a reason becomes an error where the parser started,
one with an error becomes that error. -/
def mapOrRefuse (f : α → Except Refusal β) (parser : Parser α) : Parser β := fun input =>
  (parser input).andThen fun value rest =>
    match f value with
    | .ok converted => { verdict := .accept converted rest }
    | .error (.error error) => { verdict := .reject error }
    | .error (.reason text) =>
      { verdict := .reject (input.fail ErrorKind.transformFailed [.text text]) }

/-- Rejects the values that fail a test, with an error where the parser started. The message gets
the refused value and then the given arguments. -/
def acceptWhen [Shown α] (parser : Parser α) (test : α → Bool) (kind : String)
    (args : List Host) : Parser α := fun input =>
  (parser input).andThen fun value rest =>
    if test value then { verdict := .accept value rest }
    else { verdict := .reject (input.fail kind (Shown.display value :: args)) }

/-- Replaces the accepted value by a fixed one. -/
def always (parser : Parser α) (value : β) : Parser β := map (fun _ => value) parser

/-- Runs parsers one after the other and collects their values; the first error is the result. -/
def seq : List (Parser α) → Parser (List α)
  | [] => pure []
  | first :: others => fun input =>
    (first input).andThen fun value rest => map (value :: ·) (seq others) rest

/-- Runs two parsers one after the other. -/
def seq2 (first : Parser α) (second : Parser β) : Parser (α × β) := fun input =>
  (first input).andThen fun value rest => map (fun other => (value, other)) second rest

/-- Runs three parsers one after the other. -/
def seq3 (first : Parser α) (second : Parser β) (third : Parser γ) : Parser (α × β × γ) :=
  fun input =>
    (seq2 first second input).andThen fun values rest =>
      map (fun other => (values.1, values.2, other)) third rest

/-- Runs two parsers and keeps the value of the first. -/
def left (first : Parser α) (second : Parser β) : Parser α := map Prod.fst (seq2 first second)

/-- Runs two parsers and keeps the value of the second. -/
def right (first : Parser α) (second : Parser β) : Parser β := map Prod.snd (seq2 first second)

/-- Runs parsers one after the other and keeps one of their values, counted from zero. -/
def nthOf [Inhabited α] (index : Nat) (parsers : List (Parser α)) : Parser α :=
  map (fun values => values.getD index default) (seq parsers)

end Parser

/-- Which of two errors a choice keeps, the second being the later one. -/
def ErrorPolicy.pick (policy : ErrorPolicy) (current : Option ParseError) (next : ParseError) :
    ParseError :=
  match policy, current with
  | .furthest, some current => if next.location.before current.location then current else next
  | _, _ => next

namespace Parser

variable {α : Type}

/-- Tries parsers on the same input until one accepts; `failed` is the error kept so far. -/
def firstOfAfter (failed : Option ParseError) : List (Parser α) → Parser α
  | [] => fun input =>
    { verdict := .reject (failed.getD (input.fail ErrorKind.noneOfTheExpectedCasesFound [])) }
  | first :: others => fun input =>
    (first input).orElse fun error =>
      firstOfAfter (some (input.surroundings.errorPolicy.pick failed error)) others input

/-- Tries parsers on the same input until one accepts. When all reject, the error is chosen by the
policy of the input. -/
def firstOf (parsers : List (Parser α)) : Parser α := firstOfAfter none parsers

/-- Accepts a default value without consuming anything when the parser rejects. -/
def optional (parser : Parser α) (default : α) : Parser α := firstOf [parser, pure default]

/-- Accepts what the parser accepts, but consumes nothing. -/
def lookAhead (parser : Parser α) : Parser α := fun input =>
  (parser input).andThen fun value _ => { verdict := .accept value input }

/-- Accepts without consuming anything when the parser rejects, and rejects when it accepts. -/
def not [Shown α] (parser : Parser α) : Parser Unit := fun input =>
  let outcome := parser input
  match outcome.verdict with
  | .accept value _ =>
    ⟨outcome.records, .reject (input.fail ErrorKind.unexpectedSuccess [Shown.display value])⟩
  | .reject _ => ⟨outcome.records, .accept () input⟩
  | .fault fault => ⟨outcome.records, .fault fault⟩

/-- Rejects when symbols are left, with an error where they start. -/
def entireInput (parser : Parser α) : Parser α := fun input =>
  (parser input).andThen fun value rest =>
    match rest.peek? with
    | some symbol =>
      { verdict := .reject
          (rest.fail ErrorKind.endOfInputExpected [.text (String.singleton symbol)]) }
    | none => { verdict := .accept value rest }

/-- Rejects when symbols are left, with an error of the given kind where they start. -/
def entireInputWith (parser : Parser α) (kind : String) (args : List Host) : Parser α :=
  fun input =>
    (parser input).andThen fun value rest =>
      if rest.isEmpty then { verdict := .accept value rest }
      else { verdict := .reject (rest.fail kind args) }

/-- Gives a parser a name, which its errors carry unless a parser further inside has given them one.
When tracing is on, start and end are recorded. -/
def named (name : String) (parser : Parser α) : Parser α := fun input =>
  let outcome := parser input
  let opening := if input.surroundings.trace then [Record.enter name input.location] else []
  let closing :=
    match input.surroundings.trace, outcome.verdict.finish? with
    | true, some (accepted, finish) => [Record.leave name accepted finish]
    | _, _ => []
  let verdict :=
    match outcome.verdict with
    | .reject error => .reject (error.within name)
    | verdict => verdict
  ⟨opening ++ outcome.records ++ closing, verdict⟩

end Parser

end GrammarKit
