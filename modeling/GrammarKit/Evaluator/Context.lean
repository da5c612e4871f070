import GrammarKit.Evaluator.Run
/-!
# Evaluation contexts

A context says how plain values are lifted into it and how a value of the context is fed to the rest
of a computation. Five contexts are built in: exceptions, identity, optional values, alternatives
and lists.
-/

namespace GrammarKit

/-- How values are lifted into a context and fed to what follows. -/
structure Context (β : Type) where
  /-- A plain value as a value of the context. -/
  lift : Value β → Value β
  /-- Feeds a value of the context to the rest of a computation. -/
  bind : Value β → (Value β → Run (Value β)) → Run (Value β)

namespace Context

variable {β : Type}

/-- Values stand for themselves, and an exception skips the rest. -/
def exception : Context β where
  lift value := value
  bind value next :=
    match value with
    | .exception raised => return .exception raised
    | value => next value

/-- Values stand for themselves. -/
def identity : Context β where
  lift value := value
  bind value next := next value

/-- The first missing value is the result. -/
def maybe : Context β where
  lift := Value.just
  bind value next :=
    match value with
    | .data "just" "maybe" [inner] => next inner
    | .data "nothing" "maybe" [] => return value
    | _ => return .typeError "bind<maybe>" [value]

/-- The first left alternative is the result. -/
def either : Context β where
  lift := Value.right
  bind value next :=
    match value with
    | .data "right" "either" [inner] => next inner
    | .data "left" "either" [_] => return value
    | _ => return .typeError "bind<either>" [value]

/-- Feeds the items of a list one by one and puts the lists that come back together; the first
exception, or anything else that is no list, ends it. -/
def bindItems (next : Value β → Run (Value β)) :
    List (Value β) → List (Value β) → Run (Value β)
  | gathered, [] => return .list gathered
  | gathered, item :: items => do
    match ← next item with
    | .exception raised => return .exception raised
    | .list more => bindItems next (gathered ++ more) items
    | other => return .typeError "bind<list>" [other]

/-- Every item of a list goes its own way, and the results are put together. -/
def list : Context β where
  lift value := .list [value]
  bind value next :=
    match value with
    | .list items => bindItems next [] items
    | _ => return .typeError "bind<list>" [value]

/-- The contexts that every evaluator starts with, by tag. -/
def builtIn : List (String × Context β) :=
  [("exception", exception), ("identity", identity), ("maybe", maybe), ("either", either),
    ("list", list)]

end Context

end GrammarKit
