import GrammarKit.Evaluator.Context
/-!
# What contexts feed on

A built-in context inspects the value it is given and then either ends the computation, goes on with
one item, or goes on with each of several items. Saying so in data (`Feed`) frees a context from the
runs it was written for: a feed can be run in every monad, and the built-in contexts are the plans
that run theirs in the evaluator's.
-/

namespace GrammarKit

variable {β : Type}

/-- How a computation goes on after a context has inspected a value. -/
inductive Feed (β : Type) where
  /-- It ends with a result. -/
  | halt (result : Value β)
  /-- It goes on with one item. -/
  | one (item : Value β)
  /-- It goes on with each item by itself, and the lists that come back are put together. -/
  | each (items : List (Value β))

namespace Feed

variable {m : Type → Type} [Monad m]

/-- Runs what follows for each item and puts the lists that come back together; the first exception,
or anything else that is no list, ends it. -/
def gather (next : Value β → m (Value β)) : List (Value β) → List (Value β) → m (Value β)
  | gathered, [] => return .list gathered
  | gathered, item :: items => do
    match ← next item with
    | .exception raised => return .exception raised
    | .list more => gather next (gathered ++ more) items
    | other => return .typeError "bind<list>" [other]

/-- Runs what follows on the items of a feed. -/
def run (next : Value β → m (Value β)) : Feed β → m (Value β)
  | .halt result => return result
  | .one item => next item
  | .each items => gather next [] items

/-- Runs related item by item run a feed to related ends, when giving a value is related to itself
and the relation is kept by going on in ways that pass exceptions on. -/
theorem run_related {related : m (Value β) → m (Value β) → Prop}
    (give : ∀ value, related (pure value) (pure value))
    (andThen : ∀ {first first' : m (Value β)} {next next' : Value β → m (Value β)},
      related first first' → (∀ value, related (next value) (next' value)) →
        (∀ raised, next (.exception raised) = pure (.exception raised)) →
          related (first >>= next) (first' >>= next'))
    (feed : Feed β) {next next' : Value β → m (Value β)}
    (same : ∀ item, related (next item) (next' item)) :
    related (feed.run next) (feed.run next') := by
  cases feed with
  | halt result => exact give result
  | one item => exact same item
  | each items =>
    suffices ∀ gathered, related (gather next gathered items) (gather next' gathered items) from
      this []
    induction items with
    | nil => exact fun gathered => give (.list gathered)
    | cons item items ih =>
      intro gathered
      refine andThen (same item) (fun value => ?_) fun raised => rfl
      cases value with
      | list more => exact ih (gathered ++ more)
      | _ => exact give _

end Feed

/-- How a context lifts values and what it feeds on. -/
structure Plan (β : Type) where
  /-- A plain value as a value of the context. -/
  lift : Value β → Value β
  /-- How a computation goes on with a value of the context. -/
  feed : Value β → Feed β

namespace Plan

/-- The context that follows a plan. -/
def context (plan : Plan β) : Context β where
  lift := plan.lift
  bind value next := (plan.feed value).run next

/-- Values stand for themselves, and an exception skips the rest. -/
def exception : Plan β where
  lift value := value
  feed value :=
    match value with
    | .exception raised => .halt (.exception raised)
    | value => .one value

/-- Values stand for themselves. -/
def identity : Plan β where
  lift value := value
  feed value := .one value

/-- The first missing value is the result. -/
def maybe : Plan β where
  lift := Value.just
  feed value :=
    match value with
    | .data "just" "maybe" [inner] => .one inner
    | .data "nothing" "maybe" [] => .halt value
    | _ => .halt (.typeError "bind<maybe>" [value])

/-- The first left alternative is the result. -/
def either : Plan β where
  lift := Value.right
  feed value :=
    match value with
    | .data "right" "either" [inner] => .one inner
    | .data "left" "either" [_] => .halt value
    | _ => .halt (.typeError "bind<either>" [value])

/-- Every item of a list goes its own way. -/
def list : Plan β where
  lift value := .list [value]
  feed value :=
    match value with
    | .list items => .each items
    | _ => .halt (.typeError "bind<list>" [value])

/-- The plans of the built-in contexts, by tag. -/
def builtIn : List (String × Plan β) :=
  [("exception", exception), ("identity", identity), ("maybe", maybe), ("either", either),
    ("list", list)]

end Plan

namespace Context

/-- Feeding items one by one is what the list context does. -/
theorem bindItems_eq_gather (next : Value β → Run (Value β)) (gathered items : List (Value β)) :
    bindItems next gathered items = Feed.gather next gathered items := by
  induction items generalizing gathered with
  | nil => rfl
  | cons item items ih =>
    rw [bindItems, Feed.gather]
    refine congrArg (next item >>= ·) (funext fun value => ?_)
    cases value with
    | list more => exact ih (gathered ++ more)
    | _ => rfl

/-- The built-in contexts follow their plans. -/
theorem builtIn_eq_plans :
    (builtIn : List (String × Context β)) =
      Plan.builtIn.map fun entry => (entry.1, entry.2.context) := by
  have optional : (maybe : Context β) = Plan.maybe.context := by
    refine congrArg (Context.mk _) (funext fun value => funext fun next => ?_)
    dsimp only [Plan.maybe]
    split <;> simp only [Feed.run]
  have alternative : (either : Context β) = Plan.either.context := by
    refine congrArg (Context.mk _) (funext fun value => funext fun next => ?_)
    dsimp only [Plan.either]
    split <;> simp only [Feed.run]
  have raised : (exception : Context β) = Plan.exception.context := by
    refine congrArg (Context.mk _) (funext fun value => funext fun next => ?_)
    cases value <;> rfl
  have several : (list : Context β) = Plan.list.context := by
    refine congrArg (Context.mk _) (funext fun value => funext fun next => ?_)
    cases value with
    | list items => exact bindItems_eq_gather next [] items
    | _ => rfl
  rw [builtIn, optional, alternative, raised, several]
  rfl

/-- A tag is governed by the context that follows its plan, when only the built-in contexts are
there. -/
theorem lookup_builtIn_eq_map (tag : String) :
    (builtIn : List (String × Context β)).lookup tag =
      (Plan.builtIn.lookup tag).map Plan.context := by
  rw [builtIn_eq_plans]
  generalize (Plan.builtIn : List (String × Plan β)) = plans
  induction plans with
  | nil => rfl
  | cons entry plans ih =>
    rw [List.map_cons, List.lookup_cons, List.lookup_cons, ih]
    split <;> rfl

/-- A built-in context follows one of the plans. -/
theorem exists_plan_of_mem_builtIn {tag : String} {context : Context β}
    (member : (tag, context) ∈ builtIn) : ∃ plan : Plan β, context = plan.context := by
  rw [builtIn_eq_plans] at member
  obtain ⟨⟨_, plan⟩, -, same⟩ := List.mem_map.mp member
  exact ⟨plan, (Prod.mk.inj same).2.symm⟩

end Context

end GrammarKit
