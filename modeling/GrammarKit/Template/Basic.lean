import GrammarKit.Template.Writing
/-!
# Message templates

A template is text with directives, each introduced by a percent sign. A directive takes the next
argument unless it names one by its number in square brackets. What does not fit is reported in
place: a missing argument, a number that names none, a template that ends within a directive, and
after the template the arguments that were never used.
-/

namespace GrammarKit.Template

/-- Where the arguments of a template stand while it is being filled. -/
structure Progress where
  /-- The number of the argument that comes next. -/
  next : Nat := 0
  /-- Whether some argument was named by its number. -/
  reordered : Bool := false
  /-- Whether the numbers in the current directive were all in order. -/
  good : Bool := true

/-- Numbers in a template that pass this bound are no numbers. -/
def numberLimit : Nat := 1000000

/-- Reads a run of digits after those that gave `sofar`. A number past the bound swallows the rest
of the text. -/
def takeNumber (sofar : Option Nat) : List Char → Option Nat × List Char
  | [] => (sofar, [])
  | symbol :: rest =>
    if symbol.isDigit then
      let value := sofar.getD 0
      if numberLimit < value then (none, [])
      else takeNumber (some (value * 10 + (symbol.toNat - 48))) rest
    else (sofar, symbol :: rest)

/-- Reads the number of an argument in square brackets, if one stands here: the progress after it,
the text after it, and whether there was one. -/
def takeIndex (args : Array Host) (progress : Progress) (symbols : List Char) :
    Progress × List Char × Bool :=
  match symbols with
  | '[' :: rest =>
    let progress := { progress with reordered := true }
    let bad := { progress with good := false }
    let inside := rest.takeWhile (· != ']')
    match rest.dropWhile (· != ']') with
    | [] => (bad, rest, false)
    | _ :: after =>
      if inside.isEmpty then (bad, if after.isEmpty then rest else after, false)
      else
        match takeNumber none inside with
        | (some number, []) =>
          if 1 ≤ number ∧ number ≤ args.size then
            ({ progress with next := number - 1 }, after, true)
          else (bad, after, true)
        | _ => (bad, after, false)
  | _ => (progress, symbols, false)

/-- An argument that gives a width or a precision has to be an integer within the bound. -/
def sizeArgument? (args : Array Host) (index : Nat) : Option Int :=
  let within (number : Int) : Option Int :=
    if -numberLimit ≤ number ∧ number ≤ numberLimit then some number else none
  match args[index]? with
  | some (.int number) => within number.toInt
  | some (.wide number) => within number.toInt
  | some (.octet number) => within number.toNat
  | some (.unsigned number) => within number.toNat
  | some (.symbol code) => within code.toInt
  | some (.value (.int number)) => within number.toInt
  | some (.value (.char code)) => within code.toInt
  | _ => none

/-- Moves past an argument, if there is one. -/
def Progress.skip (progress : Progress) (args : Array Host) : Progress :=
  if progress.next < args.size then { progress with next := progress.next + 1 } else progress

/-- Reads the flags of a directive. -/
def takeFlags (directive : Directive) : List Char → Directive × List Char
  | '#' :: rest => takeFlags { directive with sharp := true } rest
  | '0' :: rest => takeFlags { directive with zero := !directive.minus } rest
  | '+' :: rest => takeFlags { directive with plus := true } rest
  | '-' :: rest => takeFlags { directive with minus := true, zero := false } rest
  | ' ' :: rest => takeFlags { directive with space := true } rest
  | symbols => (directive, symbols)

/-- What has been read of a directive and what it has written already. -/
structure Reading where
  /-- The directive as far as it was read. -/
  directive : Directive
  /-- Where the arguments stand. -/
  progress : Progress
  /-- What is left of the template. -/
  rest : List Char
  /-- Whether the last thing read was the number of an argument. -/
  afterIndex : Bool
  /-- Complaints about a width or a precision. -/
  complaints : String := ""

/-- Reads the width: digits, or a star for an argument. A negative width fills up on the right. -/
def Reading.takeWidth (reading : Reading) (args : Array Host) : Reading :=
  match reading.rest with
  | '*' :: rest =>
    let progress := reading.progress.skip args
    let directive := reading.directive
    match sizeArgument? args reading.progress.next with
    | some size =>
      let directive :=
        if size < 0 then
          { directive with width := some size.natAbs, minus := true, zero := false }
        else { directive with width := some size.natAbs }
      { reading with directive, progress, rest, afterIndex := false }
    | none =>
      { reading with
        progress, rest, afterIndex := false, complaints := reading.complaints ++ "%!(BADWIDTH)" }
  | symbols =>
    let (width, rest) := takeNumber none symbols
    let progress :=
      if reading.afterIndex ∧ width.isSome then { reading.progress with good := false }
      else reading.progress
    { reading with directive := { reading.directive with width }, progress, rest }

/-- Reads the precision: a point and then digits, possibly none, or a star for an argument. -/
def Reading.takePrecision (reading : Reading) (args : Array Host) : Reading :=
  match reading.rest with
  | '.' :: rest =>
    let progress :=
      if reading.afterIndex then { reading.progress with good := false } else reading.progress
    let (progress, rest, afterIndex) := takeIndex args progress rest
    match rest with
    | '*' :: rest =>
      let skipped := progress.skip args
      match sizeArgument? args progress.next with
      | some (.ofNat size) =>
        let directive := { reading.directive with precision := some size }
        { reading with directive, progress := skipped, rest, afterIndex := false }
      | _ =>
        { reading with
          progress := skipped, rest, afterIndex := false,
          complaints := reading.complaints ++ "%!(BADPREC)" }
    | symbols =>
      let (precision, rest) := takeNumber none symbols
      let directive := { reading.directive with precision := some (precision.getD 0) }
      { reading with directive, progress, rest, afterIndex }
  | _ => reading

/-- Reads a directive up to its verb. -/
def readDirective (args : Array Host) (progress : Progress) (symbols : List Char) : Reading :=
  let (directive, rest) := takeFlags { verb := 'v' } symbols
  let (progress, rest, afterIndex) := takeIndex args { progress with good := true } rest
  let reading : Reading := { directive, progress, rest, afterIndex }
  let reading := (reading.takeWidth args).takePrecision args
  if reading.afterIndex then reading
  else
    let (progress, rest, afterIndex) := takeIndex args reading.progress reading.rest
    { reading with progress, rest, afterIndex }

/-- The arguments that were never used, with their kinds. -/
def surplus (args : Array Host) (progress : Progress) : String :=
  if progress.reordered ∨ args.size ≤ progress.next then ""
  else
    let unused := (args.toList.drop progress.next).map fun host =>
      match host with
      | .absent => "<nil>"
      | host => host.kindName ++ "=" ++ Directive.argument { verb := 'v' } host
    "%!(EXTRA " ++ ", ".intercalate unused ++ ")"

/-- Fills a template from left to right. Every turn reads at least one character, so the first
argument, a bound on the turns, may be the length of the template. -/
def fillFrom (args : Array Host) :
    Nat → Progress → List Char → String → String
  | 0, _, _, written => written
  | _, progress, [], written => written ++ surplus args progress
  | turns + 1, progress, '%' :: symbols, written =>
    let reading := readDirective args progress symbols
    let written := written ++ reading.complaints
    match reading.rest with
    | [] => written ++ "%!(NOVERB)" ++ surplus args reading.progress
    | verb :: rest =>
      let progress := reading.progress
      let report (problem : String) : String :=
        written ++ "%!" ++ verb.toString ++ "(" ++ problem ++ ")"
      if verb = '%' then fillFrom args turns progress rest (written ++ "%")
      else if !progress.good then fillFrom args turns progress rest (report "BADINDEX")
      else
        match args[progress.next]? with
        | none => fillFrom args turns progress rest (report "MISSING")
        | some host =>
          let directive := { reading.directive with verb }.settled
          fillFrom args turns { progress with next := progress.next + 1 } rest
            (written ++ directive.argument host)
  | turns + 1, progress, symbol :: symbols, written =>
    fillFrom args turns progress symbols (written.push symbol)

end GrammarKit.Template

namespace GrammarKit

/-- A template filled with arguments. -/
def fillTemplate (template : String) (args : List Host) : String :=
  Template.fillFrom args.toArray (template.length + 1) {} template.toList ""

end GrammarKit
