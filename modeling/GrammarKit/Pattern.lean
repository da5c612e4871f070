import GrammarKit.Env
/-!
# Patterns

A pattern is a template for values that may hold variables. Matching walks pattern and value
together from left to right; a variable that occurs again has to meet an equal value.
-/

namespace GrammarKit

/-- A template for values. -/
inductive Pattern (β : Type) where
  /-- Matches the values equal to the given one. -/
  | lit (value : Value β)
  /-- Matches anything and binds it. -/
  | var (name : String)
  /-- Matches anything and binds nothing. -/
  | any
  /-- Matches the values of a tag. -/
  | tagged (wanted : String)
  /-- Matches data of a name with as many arguments; a tag that is not empty has to agree too. -/
  | data (name wantedTag : String) (args : List (Pattern β))
  /-- Matches lists of the same length. -/
  | list (items : List (Pattern β))
  /-- Matches exceptions by what was raised. -/
  | exception (raised : Pattern β)
deriving Inhabited

namespace Pattern

variable {β : Type}

mutual

/-- Matches a value given the bindings made so far, and adds those of this pattern. -/
def unifyFrom [Payload β] (bound : Env β) : Pattern β → Value β → Option (Env β)
  | .lit wanted, value => if wanted.equal value then some bound else none
  | .var name, value =>
    match bound.lookup name with
    | some earlier => if earlier.equal value then some bound else none
    | none => some (bound.bind name value)
  | .any, _ => some bound
  | .tagged wanted, value => if value.tag = wanted then some bound else none
  | .data name wantedTag patterns, value =>
    match value with
    | .data name' ownTag args =>
      if name' = name ∧ (wantedTag = "" ∨ (Value.data name' ownTag args).tag = wantedTag) then
        unifyAllFrom bound patterns args
      else none
    | _ => none
  | .list patterns, value =>
    match value with
    | .list items => unifyAllFrom bound patterns items
    | _ => none
  | .exception pattern, value =>
    match value with
    | .exception raised => unifyFrom bound pattern raised
    | _ => none

/-- Matches values with patterns one by one, from left to right; their numbers have to agree. -/
def unifyAllFrom [Payload β] (bound : Env β) : List (Pattern β) → List (Value β) → Option (Env β)
  | [], [] => some bound
  | pattern :: patterns, value :: values =>
    match unifyFrom bound pattern value with
    | some bound => unifyAllFrom bound patterns values
    | none => none
  | _, _ => none

end

/-- Matches a value and gives the bindings of the pattern's variables. -/
def unify [Payload β] (pattern : Pattern β) (value : Value β) : Option (Env β) :=
  unifyFrom Env.empty pattern value

/-- Whether a pattern is written to match exceptions; only such patterns see one as the subject of a
case. -/
def asksForException : Pattern β → Bool
  | .exception _ => true
  | .tagged wanted => wanted == "exception"
  | _ => false

/-- A name with arguments in brackets, or the bare name when there are none. -/
def applied (name : String) (args : List String) : String :=
  if args.isEmpty then name else name ++ "(" ++ ", ".intercalate args ++ ")"

mutual

/-- The text of a pattern, given the text of what boxes hold. -/
def textWith (boxed : β → String) : Pattern β → String
  | .lit value => value.textWith boxed
  | .var name => "var<" ++ name ++ ">"
  | .any => "_"
  | .tagged wanted => "tag<" ++ wanted ++ ">"
  | .data name _ args => applied name (textsWith boxed args)
  | .list items => applied "list" (textsWith boxed items)
  | .exception raised => applied "exception" [textWith boxed raised]

/-- The texts of patterns one by one. -/
def textsWith (boxed : β → String) : List (Pattern β) → List String
  | [] => []
  | first :: others => textWith boxed first :: textsWith boxed others

end

/-- The text of a pattern. -/
def text [Payload β] (pattern : Pattern β) : String := pattern.textWith Payload.text

mutual

/-- The same pattern over boxed things that are known to be small; see `Value.within`. -/
def within (small : β → Prop) [SizeOf β] :
    (pattern : Pattern β) → (∀ payload, sizeOf payload < sizeOf pattern → small payload) →
      Pattern { payload : β // small payload }
  | .lit value, below => .lit (value.within small (fun _ _ => below _ (by simp; omega)))
  | .var name, _ => .var name
  | .any, _ => .any
  | .tagged wanted, _ => .tagged wanted
  | .data name wantedTag args, below =>
    .data name wantedTag (withinAll small args (fun _ _ => below _ (by simp; omega)))
  | .list items, below => .list (withinAll small items (fun _ _ => below _ (by simp; omega)))
  | .exception raised, below =>
    .exception (within small raised (fun _ _ => below _ (by simp; omega)))

/-- `within` item by item. -/
def withinAll (small : β → Prop) [SizeOf β] :
    (patterns : List (Pattern β)) → (∀ payload, sizeOf payload < sizeOf patterns → small payload) →
      List (Pattern { payload : β // small payload })
  | [], _ => []
  | first :: others, below =>
    within small first (fun _ _ => below _ (by simp; omega)) ::
      withinAll small others (fun _ _ => below _ (by simp; omega))

end

mutual

/-- Equality of the representation of patterns, given the equality of what boxes hold. -/
def alikeWith {γ : Type} (boxed : β → γ → Bool) : Pattern β → Pattern γ → Bool
  | .lit left, .lit right => left.alikeWith boxed right
  | .var left, .var right => left == right
  | .any, .any => true
  | .tagged left, .tagged right => left == right
  | .data name wantedTag args, .data name' wantedTag' args' =>
    name == name' && wantedTag == wantedTag' && alikeAllWith boxed args args'
  | .list items, .list items' => alikeAllWith boxed items items'
  | .exception raised, .exception raised' => alikeWith boxed raised raised'
  | _, _ => false

/-- `alikeWith` item by item. -/
def alikeAllWith {γ : Type} (boxed : β → γ → Bool) : List (Pattern β) → List (Pattern γ) → Bool
  | [], [] => true
  | left :: lefts, right :: rights => alikeWith boxed left right && alikeAllWith boxed lefts rights
  | _, _ => false

end

end Pattern

end GrammarKit
