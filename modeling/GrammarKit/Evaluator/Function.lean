import GrammarKit.Evaluator.Run
/-!
# Built-in functions

Arithmetic wraps around at 64 bits and division drops the fraction. A function that is given too
few, too many or the wrong kind of arguments raises a type error that carries its name and them.
-/

namespace GrammarKit

/-- What an expression can call: none of the arguments is an exception. -/
abbrev Function (β : Type) := List (Value β) → Run (Value β)

namespace Function

variable {β : Type}

/-- The exception that a division by zero raises. -/
def divisionByZero : Value β := .exception (.data "division_by_zero" "" [])

/-- A function of two integers. -/
def onIntegers (name : String) (operation : Int64 → Int64 → Value β) : List (Value β) → Value β
  | [.int left, .int right] => operation left right
  | args => .typeError name args

/-- A function of two truth values. -/
def onTruths (name : String) (operation : Bool → Bool → Bool) : List (Value β) → Value β
  | [.bool left, .bool right] => .bool (operation left right)
  | args => .typeError name args

/-- The quotient of two integers without its fraction. -/
def divide (left right : Int64) : Value β :=
  if right = 0 then divisionByZero else .int (left / right)

/-- What the quotient of two integers leaves over; it has the sign of the first. -/
def remainder (left right : Int64) : Value β :=
  if right = 0 then divisionByZero else .int (left % right)

/-- The integer with the other sign. -/
def negate : List (Value β) → Value β
  | [.int number] => .int (-number)
  | args => .typeError "negate" args

/-- The other truth value. -/
def not : List (Value β) → Value β
  | [.bool truth] => .bool (!truth)
  | args => .typeError "not" args

/-- Whether two values are equal. -/
def equalTo [Payload β] : List (Value β) → Value β
  | [left, right] => .bool (left.equal right)
  | args => .typeError "equal_to" args

/-- Whether two values differ. -/
def notEqualTo [Payload β] : List (Value β) → Value β
  | [left, right] => .bool (!left.equal right)
  | args => .typeError "not_equal_to" args

/-- Whether the tag of a value is the given symbol. -/
def isTag : List (Value β) → Value β
  | [value, .symbol wanted] => .bool (value.tag == wanted)
  | args => .typeError "is_tag" args

/-- The tag of a value as a symbol. -/
def tagOf : List (Value β) → Value β
  | [value] => .symbol value.tag
  | args => .typeError "tag_of" args

/-- Two values as one. -/
def pair : List (Value β) → Value β
  | [first, second] => .data "pair" "" [first, second]
  | args => .typeError "pair" args

/-- The first half of a pair. -/
def first : List (Value β) → Value β
  | [.data "pair" _ [one, _]] => one
  | args => .typeError "first" args

/-- The second half of a pair. -/
def second : List (Value β) → Value β
  | [.data "pair" _ [_, other]] => other
  | args => .typeError "second" args

/-- The pure functions that every evaluator starts with, by name. -/
def pureBuiltIn [Payload β] : List (String × (List (Value β) → Value β)) :=
  [("plus", onIntegers "plus" fun left right => .int (left + right)),
    ("minus", onIntegers "minus" fun left right => .int (left - right)),
    ("times", onIntegers "times" fun left right => .int (left * right)),
    ("divides", onIntegers "divides" divide),
    ("modulo", onIntegers "modulo" remainder),
    ("negate", negate),
    ("less", onIntegers "less" fun left right => .bool (left < right)),
    ("less_equal", onIntegers "less_equal" fun left right => .bool (left ≤ right)),
    ("greater", onIntegers "greater" fun left right => .bool (right < left)),
    ("greater_equal", onIntegers "greater_equal" fun left right => .bool (right ≤ left)),
    ("equal_to", equalTo),
    ("not_equal_to", notEqualTo),
    ("not", not),
    ("and", onTruths "and" (· && ·)),
    ("or", onTruths "or" (· || ·)),
    ("is_tag", isTag),
    ("tag_of", tagOf),
    ("pair", pair),
    ("first", first),
    ("second", second)]

/-- The functions that every evaluator starts with, by name. -/
def builtIn [Payload β] : List (String × Function β) :=
  pureBuiltIn.map fun (name, function) => (name, fun args => pure (function args))

end Function

end GrammarKit
