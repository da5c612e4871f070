import GrammarKit.Expr
import GrammarKit.Moment
import GrammarKit.Number.FloatText
/-!
# Host values

The values that parsers produce, that message templates are filled with, that settings documents
hold and that boxes carry. Values and expressions of the expression language are host values too, so
the two worlds contain each other: a box inside a value may hold a host value that holds a value.
-/

namespace GrammarKit

/-- A host value. -/
inductive Host where
  /-- A truth value. -/
  | bool (truth : Bool)
  /-- A plain integer. -/
  | int (number : Int64)
  /-- An integer that a document declared to be 64 bits wide. -/
  | wide (number : Int64)
  /-- An octet. -/
  | octet (number : UInt8)
  /-- An integer without a sign, too big for a plain one. -/
  | unsigned (number : UInt64)
  /-- A floating-point number. -/
  | float (number : Float)
  /-- A text. -/
  | text (text : String)
  /-- A symbol of a source. -/
  | symbol (code : CodePoint)
  /-- A run of symbols of a source. -/
  | symbols (codes : List CodePoint)
  /-- Nothing. -/
  | absent
  /-- The value of parsers that only recognise. -/
  | unit
  /-- A list. -/
  | list (items : List Host)
  /-- A mapping from texts, by its entries. -/
  | record (entries : List (String × Host))
  /-- A mapping from arbitrary keys, by its entries. -/
  | table (entries : List (Host × Host))
  /-- A date or a time. -/
  | moment (moment : Moment)
  /-- A value of the expression language. -/
  | value (value : Value Host)
  /-- An expression. -/
  | expr (expression : Expr Host)
  /-- Two values in sequence. -/
  | pair (first second : Host)
  /-- Three values in sequence. -/
  | triple (first second third : Host)

namespace Host

instance : Inhabited Host := ⟨.absent⟩

/-- The host value of an expression; a missing expression is nothing at all. -/
def ofExpr (expression : Expr Host) : Host :=
  if expression.isAbsent then .absent else .expr expression

/-- Symbols shown as text: the outermost symbol or run of symbols becomes a text. -/
def display : Host → Host
  | .symbol code => .text code.text
  | .symbols codes => .text (CodePoint.textOf codes)
  | other => other

/-- How an expression whose text is undefined shows up. -/
def failedExprText : String := Expr.failureReport 'v'

/-- Texts between brackets with spaces between them. -/
def bracketed (items : List String) : String := "[" ++ " ".intercalate items ++ "]"

mutual

/-- The usual text of a host value: lists and mappings by their items, everything else plainly. -/
def render : Host → String
  | .bool truth => if truth then "true" else "false"
  | .int number => Number.integerText number.toInt
  | .wide number => Number.integerText number.toInt
  | .octet number => Number.naturalText number.toNat
  | .unsigned number => Number.naturalText number.toNat
  | .float number => Number.floatText number
  | .text content => content
  | .symbol code => Number.integerText code.toInt
  | .symbols codes => bracketed (codes.map fun code => Number.integerText code.toInt)
  | .absent => "<nil>"
  | .unit => "\x7b\x7d"
  | .list items => bracketed (renderAll items)
  | .record entries => "map" ++ bracketed (renderRecord entries)
  | .table entries => "map" ++ bracketed (renderTable entries)
  | .moment time => time.text
  | .value held => held.contained.textWith fun inner => render inner.val
  | .expr expression =>
    if expression.isAbsent then "<nil>"
    else (expression.contained.textWith? fun inner => render inner.val).getD failedExprText
  | .pair first second => "(" ++ renderHalf first ++ ", " ++ renderHalf second ++ ")"
  | .triple first second third =>
    "\x7b" ++ render first ++ " " ++ render second ++ " " ++ render third ++ "\x7d"
termination_by host => 2 * sizeOf host
decreasing_by
  all_goals first
    | (simp; have := inner.property; omega)
    | (simp; try omega)

/-- The text of a half of a pair, whose symbols show as text. -/
def renderHalf : Host → String
  | .symbol code => code.text
  | .symbols codes => CodePoint.textOf codes
  | other => render other
termination_by host => 2 * sizeOf host + 1

/-- The texts of the items of a list. -/
def renderAll : List Host → List String
  | [] => []
  | first :: others => render first :: renderAll others
termination_by hosts => 2 * sizeOf hosts
decreasing_by all_goals (simp <;> omega)

/-- The texts of the entries of a mapping from texts. -/
def renderRecord : List (String × Host) → List String
  | [] => []
  | (key, item) :: others => (key ++ ":" ++ render item) :: renderRecord others
termination_by entries => 2 * sizeOf entries
decreasing_by all_goals (simp <;> omega)

/-- The texts of the entries of a mapping. -/
def renderTable : List (Host × Host) → List String
  | [] => []
  | (key, item) :: others => (render key ++ ":" ++ render item) :: renderTable others
termination_by entries => 2 * sizeOf entries
decreasing_by all_goals (simp <;> omega)

end

mutual

/-- Whether two host values are of the same kind and have the same content. Numbers that are not
numbers differ from themselves, and the two zeros are the same. -/
def alike : Host → Host → Bool
  | .bool left, .bool right => left == right
  | .int left, .int right => left == right
  | .wide left, .wide right => left == right
  | .octet left, .octet right => left == right
  | .unsigned left, .unsigned right => left == right
  | .float left, .float right => left == right
  | .text left, .text right => left == right
  | .symbol left, .symbol right => left == right
  | .symbols left, .symbols right => left == right
  | .absent, .absent => true
  | .unit, .unit => true
  | .list left, .list right => alikeAll left right
  | .record left, .record right => alikeRecord left right
  | .table left, .table right => alikeTable left right
  | .moment left, .moment right => left == right
  | .value left, .value right =>
    left.contained.alikeWith (fun inner other => alike inner.val other) right
  | .expr left, .expr right =>
    left.contained.alikeWith (fun inner other => alike inner.val other) right
  | .pair first second, .pair first' second' => alike first first' && alike second second'
  | .triple first second third, .triple first' second' third' =>
    alike first first' && alike second second' && alike third third'
  | _, _ => false
termination_by left => sizeOf left
decreasing_by
  all_goals first
    | (simp; have := inner.property; omega)
    | (simp; try omega)

/-- `alike` item by item. -/
def alikeAll : List Host → List Host → Bool
  | [], [] => true
  | left :: lefts, right :: rights => alike left right && alikeAll lefts rights
  | _, _ => false
termination_by lefts => sizeOf lefts
decreasing_by all_goals (simp <;> omega)

/-- `alike` entry by entry. -/
def alikeRecord : List (String × Host) → List (String × Host) → Bool
  | [], [] => true
  | (key, left) :: lefts, (key', right) :: rights =>
    key == key' && alike left right && alikeRecord lefts rights
  | _, _ => false
termination_by lefts => sizeOf lefts
decreasing_by all_goals (simp <;> omega)

/-- `alike` entry by entry. -/
def alikeTable : List (Host × Host) → List (Host × Host) → Bool
  | [], [] => true
  | (key, left) :: lefts, (key', right) :: rights =>
    alike key key' && alike left right && alikeTable lefts rights
  | _, _ => false
termination_by lefts => sizeOf lefts
decreasing_by all_goals (simp <;> omega)

end

instance : Payload Host := ⟨render, alike⟩

/-- The name of the kind of a value of the expression language. -/
def valueKindName : Value Host → String
  | .int _ => "monad.Int"
  | .bool _ => "monad.Bool"
  | .char _ => "monad.Char"
  | .string _ => "monad.String"
  | .symbol _ => "monad.Symbol"
  | .box _ => "*monad.Box"
  | .data .. => "*monad.Data"
  | .list _ => "*monad.List"
  | .exception _ => "*monad.Exception"

/-- The name of the kind of an expression. -/
def exprKindName : Expr Host → String
  | .absent => "<nil>"
  | .lit _ => "*monad.LitNode"
  | .var _ => "*monad.VarNode"
  | .call .. => "*monad.CallNode"
  | .construct .. => "*monad.ConstructNode"
  | .ifThenElse .. => "*monad.IfNode"
  | .letIn .. => "*monad.LetNode"
  | .letAll .. => "*monad.MultiLetNode"
  | .case .. => "*monad.CaseNode"
  | .raise _ => "*monad.RaiseNode"
  | .attempt .. => "*monad.TryNode"
  | .lift .. => "*monad.ReturnNode"
  | .bind .. => "*monad.BindNode"
  | .block .. => "*monad.DoNode"

/-- The name of the kind of a host value, as messages show it. -/
def kindName : Host → String
  | .bool _ => "bool"
  | .int _ => "int"
  | .wide _ => "int64"
  | .octet _ => "uint8"
  | .unsigned _ => "uint64"
  | .float _ => "float64"
  | .text _ => "string"
  | .symbol _ => "int32"
  | .symbols _ => "[]int32"
  | .absent => "<nil>"
  | .unit => "struct \x7b\x7d"
  | .list _ => "[]interface \x7b\x7d"
  | .record _ => "map[string]interface \x7b\x7d"
  | .table _ => "map[interface \x7b\x7d]interface \x7b\x7d"
  | .moment time => time.kindName
  | .value held => valueKindName held
  | .expr expression => exprKindName expression
  | .pair .. => "parsec.Pair[interface \x7b\x7d,interface \x7b\x7d]"
  | .triple .. => "parsec.Triple[interface \x7b\x7d,interface \x7b\x7d,interface \x7b\x7d]"

end Host

end GrammarKit
