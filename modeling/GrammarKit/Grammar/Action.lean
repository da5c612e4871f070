import GrammarKit.Number.Numeral
import GrammarKit.Parser.Basic
/-!
# Actions of grammars

The conversions, tests and folds that a grammar can name. All of them take any host value: what they
have no use for counts as zero or as the empty text.
-/

namespace GrammarKit

namespace Host

/-- A host value as an integer: integers and symbols by their number, pairs by their second half. -/
def asInt : Host → Int64
  | .int number => number
  | .symbol code => code.toInt64
  | .pair _ second => asInt second
  | _ => 0

mutual

/-- A host value as text: integers in digits, symbols and texts as they are, sequences by the texts
of their items one after the other. -/
def asText : Host → String
  | .int number => Number.integerText number.toInt
  | .symbol code => code.text
  | .symbols codes => CodePoint.textOf codes
  | .text content => content
  | .list items => asTextAll items
  | .pair first second => asText first ++ asText second
  | .triple first second third => asText first ++ asText second ++ asText third
  | _ => ""

/-- The texts of items one after the other. -/
def asTextAll : List Host → String
  | [] => ""
  | first :: others => asText first ++ asTextAll others

end

end Host

namespace Action

/-- The second item of a pair or a triple; other values stay. -/
def second : Host → Host
  | .pair _ other => other
  | .triple _ other _ => other
  | other => other

/-- A pair the other way round; other values stay. -/
def swap : Host → Host
  | .pair first second => .pair second first
  | other => other

/-- The conversion that a name stands for. -/
def transform? : String → Option (Host → Host)
  | "text" => some fun host => .text host.asText
  | "number" => some fun host => .int host.asInt
  | "negate" => some fun host => .int (-host.asInt)
  | "succ" => some fun host => .int (host.asInt + 1)
  | "length" => some fun host => .int (Int64.ofNat host.asText.length)
  | "second" => some second
  | "swap" => some swap
  | "lit_expr" => some fun host => .expr (.int host.asInt)
  | _ => none

/-- The error that two of the refusing conversions end with. -/
def customError : ParseError :=
  { kind := "custom", message := "custom failure", location := ⟨7, 3, 2⟩ }

/-- Reads the text of a value as an integer. -/
def readInteger (host : Host) : Except Parser.Refusal Host :=
  match Number.int64? host.asText with
  | .ok number => .ok (.int number)
  | .error problem => .error (.reason (Number.numeralReason host.asText problem))

/-- Keeps even values and refuses odd ones. -/
def evenOnly (host : Host) : Except Parser.Refusal Host :=
  if host.asInt % 2 = 0 then .ok host
  else .error (.reason ("odd value " ++ Number.integerText host.asInt.toInt))

/-- The conversion that may refuse that a name stands for. -/
def transformOrRefuse? : String → Option (Host → Except Parser.Refusal Host)
  | "atoi" => some readInteger
  | "even" => some evenOnly
  | "percent" => some fun _ => .error (.reason "100%d")
  | "parse_error" => some fun _ => .error (.error customError)
  | "wrapped_error" => some fun _ => .error (.error customError)
  | _ => none

/-- The tests of values. -/
inductive Test where
  /-- Holds always or never. -/
  | constant (verdict : Bool)
  /-- Holds of even numbers. -/
  | even
  /-- Holds of numbers below a bound. -/
  | less (bound : Int64)
  /-- Holds of one text. -/
  | text (text : String)

/-- Whether a test holds of a value. -/
def Test.holds : Test → Host → Bool
  | .constant verdict, _ => verdict
  | .even, host => host.asInt % 2 == 0
  | .less bound, host => host.asInt < bound
  | .text wanted, host => host.asText == wanted

/-- The function that an operator symbol stands for. -/
def operatorName (code : CodePoint) : String :=
  match code.toChar with
  | '+' => "plus"
  | '-' => "minus"
  | '*' => "times"
  | '/' => "divides"
  | '%' => "modulo"
  | _ => ""

/-- An expression inside a host value; other values are holes. -/
def exprOf : Host → Expr Host
  | .expr expression => expression
  | _ => .absent

/-- A call of an operator on the expression gathered so far and the one after the operator. -/
def applyOperator (gathered next : Host) : Host :=
  match next with
  | .pair (.symbol code) operand =>
    .expr (.call (operatorName code) [exprOf gathered, exprOf operand])
  | _ => gathered

/-- A list with one more item; anything else counts as the empty list. -/
def append (gathered next : Host) : Host :=
  match gathered with
  | .list items => .list (items ++ [next])
  | _ => .list [next]

/-- The fold that a name stands for. -/
def fold? : String → Option (Host → Host → Host)
  | "sum" => some fun gathered next => .int (gathered.asInt + next.asInt)
  | "sub" => some fun gathered next => .int (gathered.asInt - next.asInt)
  | "digits" => some fun gathered next => .int (gathered.asInt * 10 + next.asInt)
  | "count" => some fun gathered _ => .int (gathered.asInt + 1)
  | "text" => some fun gathered next => .text (gathered.asText ++ next.asText)
  | "pair" => some .pair
  | "list" => some append
  | "op_expr" => some applyOperator
  | _ => none

end Action

end GrammarKit
