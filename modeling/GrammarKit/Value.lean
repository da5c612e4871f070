import GrammarKit.Number.Integer
import GrammarKit.Text.Quoted
/-!
# Values of the expression language

A value is a scalar, a box around something the evaluator knows nothing about, or a composite: data
built by a named constructor, a list, or an exception. What a box holds is a parameter, so
everything said here holds whatever the boxes hold.

Two relations live here. `Value.equal` is the equality that programs see: composites are compared by
tag, constructor name and children. `Value.alikeWith` is the finer equality of the representation.
-/

namespace GrammarKit

/-- What the evaluator needs of the things that boxes hold: their text and their equality. -/
class Payload (β : Type) where
  /-- The text of a boxed thing. -/
  text : β → String
  /-- Whether two boxed things count as equal. -/
  alike : β → β → Bool

/-- A value of the expression language, over boxes that hold a `β`. -/
inductive Value (β : Type) where
  /-- A 64-bit integer. -/
  | int (number : Int64)
  /-- A truth value. -/
  | bool (truth : Bool)
  /-- A symbol of a text, by its code. -/
  | char (code : CodePoint)
  /-- A text. -/
  | string (text : String)
  /-- A name that is not bound to anything. -/
  | symbol (name : String)
  /-- Something the evaluator knows nothing about. -/
  | box (payload : β)
  /-- A constructor applied to arguments; an empty `ownTag` means that the name is the tag. -/
  | data (name ownTag : String) (args : List (Value β))
  /-- A list of values. -/
  | list (items : List (Value β))
  /-- A value that was raised. -/
  | exception (raised : Value β)
deriving Inhabited

/-- The four ways a value can be visited. -/
inductive Shape where
  /-- Integers, truth values, symbols, texts, names and boxes. -/
  | scalar
  /-- A constructor applied to arguments. -/
  | data
  /-- A list. -/
  | list
  /-- A raised value. -/
  | exception
deriving DecidableEq, Repr

namespace Value

variable {β : Type}

/-- Which of the four shapes a value has. -/
def shape : Value β → Shape
  | .data .. => .data
  | .list _ => .list
  | .exception _ => .exception
  | _ => .scalar

/-- The tag of a value: its kind, or for data the tag it carries, its name when it carries none. -/
def tag : Value β → String
  | .int _ => "int"
  | .bool _ => "bool"
  | .char _ => "char"
  | .string _ => "string"
  | .symbol _ => "symbol"
  | .box _ => "box"
  | .data name ownTag _ => if ownTag = "" then name else ownTag
  | .list _ => "list"
  | .exception _ => "exception"

/-- The constructor name of a composite; scalars have none. -/
def constructor? : Value β → Option String
  | .data name _ _ => some name
  | .list _ => some "list"
  | .exception _ => some "exception"
  | _ => none

/-- The children of a composite; scalars have none. -/
def children : Value β → List (Value β)
  | .data _ _ args => args
  | .list items => items
  | .exception raised => [raised]
  | _ => []

/-- Whether a value is an exception. -/
def isException : Value β → Bool
  | .exception _ => true
  | _ => false

/-- Two composites have the same head when their tags and their constructor names agree. -/
def sameHead (left right : Value β) : Bool :=
  match left.constructor?, right.constructor? with
  | some one, some other => left.tag == right.tag && one == other
  | _, _ => false

mutual

/-- The equality that programs see: scalars by kind and content, boxes by what they hold, composites
by tag, constructor name and children. -/
def equal [Payload β] : Value β → Value β → Bool
  | .int left, .int right => left == right
  | .bool left, .bool right => left == right
  | .char left, .char right => left == right
  | .string left, .string right => left == right
  | .symbol left, .symbol right => left == right
  | .box left, .box right => Payload.alike left right
  | .data name ownTag args, right =>
    sameHead (.data name ownTag args) right && equalAll args right.children
  | .list items, right => sameHead (.list items) right && equalAll items right.children
  | .exception raised, right =>
    sameHead (.exception raised) right &&
      match right.children with
      | [only] => equal raised only
      | _ => false
  | _, _ => false

/-- Lists of values are equal when they are equally long and equal item by item. -/
def equalAll [Payload β] : List (Value β) → List (Value β) → Bool
  | [], [] => true
  | left :: lefts, right :: rights => equal left right && equalAll lefts rights
  | _, _ => false

end

mutual

/-- The text of a value, given the text of what boxes hold. -/
def textWith (boxed : β → String) : Value β → String
  | .int number => Number.integerText number.toInt
  | .bool truth => if truth then "true" else "false"
  | .char code => Text.quoteSymbol code
  | .string text => Text.quote text
  | .symbol name => name
  | .box payload => "box(" ++ boxed payload ++ ")"
  | .data name _ [] => name
  | .data name _ (first :: others) => name ++ "(" ++ joinWith boxed (first :: others) ++ ")"
  | .list items => "[" ++ joinWith boxed items ++ "]"
  | .exception raised => "exception(" ++ textWith boxed raised ++ ")"

/-- The texts of values with commas between them. -/
def joinWith (boxed : β → String) : List (Value β) → String
  | [] => ""
  | [last] => textWith boxed last
  | first :: second :: others =>
    textWith boxed first ++ ", " ++ joinWith boxed (second :: others)

end

/-- The text of a value. -/
def text [Payload β] (value : Value β) : String := value.textWith Payload.text

mutual

/-- The same value with the knowledge that every boxed thing satisfies `small`, given that all
things smaller than the value do: what a box holds is smaller than what holds the box. -/
def within (small : β → Prop) [SizeOf β] :
    (value : Value β) → (∀ payload, sizeOf payload < sizeOf value → small payload) →
      Value { payload : β // small payload }
  | .int number, _ => .int number
  | .bool truth, _ => .bool truth
  | .char code, _ => .char code
  | .string text, _ => .string text
  | .symbol name, _ => .symbol name
  | .box payload, below => .box ⟨payload, below payload (by simp)⟩
  | .data name ownTag args, below =>
    .data name ownTag (withinAll small args (fun _ _ => below _ (by simp; omega)))
  | .list items, below => .list (withinAll small items (fun _ _ => below _ (by simp; omega)))
  | .exception raised, below =>
    .exception (within small raised (fun _ _ => below _ (by simp; omega)))

/-- `within` item by item. -/
def withinAll (small : β → Prop) [SizeOf β] :
    (values : List (Value β)) → (∀ payload, sizeOf payload < sizeOf values → small payload) →
      List (Value { payload : β // small payload })
  | [], _ => []
  | first :: others, below =>
    within small first (fun _ _ => below _ (by simp; omega)) ::
      withinAll small others (fun _ _ => below _ (by simp; omega))

end

/-- The same value with the knowledge that every boxed thing is smaller than it. -/
def contained [SizeOf β] (value : Value β) :
    Value { payload : β // sizeOf payload < sizeOf value } :=
  value.within (fun payload => sizeOf payload < sizeOf value) fun _ under => under

mutual

/-- Equality of the representation, given the equality of what boxes hold: even the tag that data
carries has to be the same. -/
def alikeWith {γ : Type} (boxed : β → γ → Bool) : Value β → Value γ → Bool
  | .int left, .int right => left == right
  | .bool left, .bool right => left == right
  | .char left, .char right => left == right
  | .string left, .string right => left == right
  | .symbol left, .symbol right => left == right
  | .box left, .box right => boxed left right
  | .data name ownTag args, .data name' ownTag' args' =>
    name == name' && ownTag == ownTag' && alikeAllWith boxed args args'
  | .list items, .list items' => alikeAllWith boxed items items'
  | .exception raised, .exception raised' => alikeWith boxed raised raised'
  | _, _ => false

/-- `alikeWith` item by item. -/
def alikeAllWith {γ : Type} (boxed : β → γ → Bool) : List (Value β) → List (Value γ) → Bool
  | [], [] => true
  | left :: lefts, right :: rights => alikeWith boxed left right && alikeAllWith boxed lefts rights
  | _, _ => false

end

mutual

/-- The tree of a value whose lines after the first start with `margin`. -/
def treeBelow [Payload β] (margin : String) : Value β → String
  | .data name _ args => name ++ branches margin args
  | .list items => "list" ++ branches margin items
  | .exception raised => "exception\n" ++ margin ++ "└── " ++ treeBelow (margin ++ "    ") raised
  | scalar => scalar.text

/-- The branches of a node, each on lines of its own; the last one ends the node's rule. -/
def branches [Payload β] (margin : String) : List (Value β) → String
  | [] => ""
  | [last] => "\n" ++ margin ++ "└── " ++ treeBelow (margin ++ "    ") last
  | first :: second :: others =>
    "\n" ++ margin ++ "├── " ++ treeBelow (margin ++ "│   ") first ++
      branches margin (second :: others)

end

/-- A value as a tree, one node on each line. -/
def tree [Payload β] (value : Value β) : String := treeBelow "" value

/-- A raised type error: the operation's name and the arguments it was given. -/
def typeError (operation : String) (args : List (Value β)) : Value β :=
  .exception (.data "type_error" "" (.symbol operation :: args))

/-- A value that is there, of the context `maybe`. -/
def just (value : Value β) : Value β := .data "just" "maybe" [value]

/-- The value that is not there, of the context `maybe`. -/
def nothing : Value β := .data "nothing" "maybe" []

/-- The first alternative, of the context `either`. -/
def left (value : Value β) : Value β := .data "left" "either" [value]

/-- The second alternative, of the context `either`. -/
def right (value : Value β) : Value β := .data "right" "either" [value]

/-- A value inside a number of one-argument constructors of the same name. -/
def nest (name : String) : Nat → Value β → Value β
  | 0, value => value
  | count + 1, value => nest name count (.data name "" [value])

end Value

/-- Equality of values that may be missing: a missing value equals only a missing value. -/
def Value.equalOptional {β : Type} [Payload β] : Option (Value β) → Option (Value β) → Bool
  | none, none => true
  | some left, some right => left.equal right
  | _, _ => false

end GrammarKit
