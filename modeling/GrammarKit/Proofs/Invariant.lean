import GrammarKit.Proofs.Value
import GrammarKit.Proofs.Watched
/-!
# Invariants of watched runs

An invariant says which values may be around while an expression is evaluated and what may be seen
of a run. Its laws are about single steps: giving a value, going on, stopping, calling a function,
feeding a context, taking up an expression and settling on its value. From these laws every watched
run of an expression keeps the invariant, by induction along the evaluator
(`Invariant.onRun_watchAt`).

An invariant need not care for what happens when an exception is caught: then it is for expressions
in which nothing catches one.
-/

namespace GrammarKit

open Evaluator Watched Value

variable {β : Type}

namespace Evaluator

/-- Whether an evaluator knows what an expression refers to, that is not a hole. -/
def Knows (evaluator : Evaluator β) : Expr β → Prop
  | .absent => False
  | .call name _ => (evaluator.function? name).isSome
  | .lift tag _ | .bind tag _ _ _ | .block tag _ => (evaluator.context? tag).isSome
  | _ => True

end Evaluator

variable [Payload β]

/-- What is kept by every step of watched runs. -/
structure Invariant (evaluator : Evaluator β) where
  /-- Only the built-in contexts are there. -/
  standard : evaluator.contexts = Context.builtIn
  /-- Which values are bound and passed on. -/
  good : Value β → Prop
  /-- Composites may be around along with their children. -/
  inherited : Inherited good
  /-- Which forms may be evaluated. -/
  onNode : Expr β → Prop
  /-- Literals may be around. -/
  literal : ∀ {value}, onNode (.lit value) → good value
  /-- Whether exceptions may be caught. -/
  catching : Prop
  /-- Clauses that ask for an exception may catch one. -/
  asking : ∀ {subject clauses clause}, onNode (.case subject clauses) → clause ∈ clauses →
    clause.pattern.asksForException = true → catching
  /-- Attempts may catch an exception. -/
  attempting : ∀ {body catches}, onNode (.attempt body catches) → catching
  /-- What may have happened when a run ends, and how it may end. -/
  onEnd : List (Event β) → Except EvalFault (Value β) → Prop
  /-- Runs give values that may be around, or raise them. -/
  outward : ∀ {events value}, onEnd events (.ok value) → Outward good value
  /-- A run may give such a value at once. -/
  give : ∀ {value}, Outward good value → onEnd [] (.ok value)
  /-- A run may stop where something is not known. -/
  stop : ∀ {expression}, onNode expression → ¬ evaluator.Knows expression →
    ∀ fault, onEnd [] (.error fault)
  /-- A run may stop where something has to be traced that has no text. -/
  untraceable : ∀ {expression : Expr β}, expression.Every onNode → expression.text? = none →
    onEnd [] (.error .untraceable)
  /-- A run may go on with a value, and with an exception when it is caught. -/
  andThen : ∀ {events value later result}, onEnd events (.ok value) →
    (value.isException = true → catching) → onEnd later result → onEnd (events ++ later) result
  /-- A run may call a function. -/
  call : ∀ {name function args}, evaluator.function? name = some function →
    (∀ arg ∈ args, good arg) → ∀ ledger,
      onEnd [.called name args] ((function args).outcome ledger)
  /-- A run may feed a value to a context first. -/
  feed : ∀ {tag value events result}, good value → onEnd events result →
    onEnd (.fed tag value :: events) result
  /-- A run may take up an expression first. -/
  takeUp : ∀ {expression env depth events result}, env.Binds good → onEnd events result →
    onEnd (.takenUp expression env depth :: events) result
  /-- A run may settle an expression on its value. -/
  settle : ∀ {expression events value}, onEnd events (.ok value) →
    onEnd (events ++ [.settled expression value]) (.ok value)

namespace Invariant

variable {evaluator : Evaluator β} (I : Invariant evaluator)

/-- An ordinary value that is around outwardly is around. -/
theorem good_of_outward {value : Value β} (outward : Outward I.good value)
    (ordinary : value.isException = false) : I.good value := by
  cases outward with
  | given holds => exact holds
  | raised => exact absurd ordinary Bool.noConfusion

/-- What was raised by an exception that is around outwardly is around. -/
theorem good_of_raised {raised : Value β} (outward : Outward I.good (.exception raised)) :
    I.good raised := by
  cases outward with
  | given holds => exact I.inherited.exception holds
  | raised holds => exact holds

/-! ## Steps -/

/-- Whether the invariant is kept by a run, from whatever ledger. -/
def onRun (run : Watched β (Value β)) : Prop :=
  ∀ ledger, I.onEnd (run ledger).events (run ledger).result

/-- Giving a value keeps the invariant. -/
theorem onRun_pure {value : Value β} (outward : Outward I.good value) : I.onRun (pure value) :=
  fun _ => I.give outward

/-- Going on keeps the invariant when exceptions are passed on or may be caught. -/
theorem onRun_bind {run : Watched β (Value β)} {next : Value β → Watched β (Value β)}
    (kept : I.onRun run)
    (after : ∀ {value}, value.isException = false → I.good value → I.onRun (next value))
    (passes : ∀ raised, next (.exception raised) = pure (.exception raised) ∨
      I.catching ∧ (I.good raised → I.onRun (next (.exception raised)))) :
    I.onRun (run >>= next) := by
  intro ledger
  have first := kept ledger
  rcases ended : run ledger with ⟨events, result, left⟩
  rw [ended] at first
  cases result with
  | error fault => rwa [bind_error next ended]
  | ok value =>
    rw [bind_ok next ended]
    cases kind : value.isException with
    | false =>
      have holds := I.good_of_outward (I.outward first) kind
      exact I.andThen first (by simp [kind]) (after kind holds left)
    | true =>
      obtain ⟨raised, rfl⟩ := exists_of_isException kind
      obtain same | ⟨catching, recovers⟩ := passes raised
      · -- The exception is passed on, so nothing more happens.
        rw [same]
        change I.onEnd (events ++ []) _
        rwa [List.append_nil]
      · exact I.andThen first (fun _ => catching)
          (recovers (I.good_of_raised (I.outward first)) left)

/-- Taking up a node keeps the invariant. -/
theorem onRun_watchNode {expression : Expr β} {env : Env β} {evaluation : Watched β (Value β)}
    (every : expression.Every I.onNode) (bound : env.Binds I.good) (depth : Nat)
    (kept : I.onRun evaluation) :
    I.onRun (evaluator.watchNode expression env depth evaluation) := by
  have limited : I.onRun (pure (limitExceeded evaluator.maxDepth)) :=
    I.onRun_pure (.raised (I.inherited.wrapped.mpr (I.inherited.scalar rfl)))
  have recorded : I.onRun (unseen (evaluator.record expression depth) >>= fun _ => evaluation) := by
    unfold record
    split
    · split
      · exact fun ledger => kept _
      · next textless => exact fun ledger => I.untraceable every textless
    · exact kept
  have settled {run : Watched β (Value β)} (kept : I.onRun run) :
      I.onRun (run >>= fun value => see (.settled expression value) >>= fun _ => pure value) := by
    intro ledger
    have first := kept ledger
    rcases ended : run ledger with ⟨events, result, left⟩
    rw [ended] at first
    cases result with
    | error fault => rwa [bind_error _ ended]
    | ok value =>
      rw [bind_ok _ ended]
      exact I.settle first
  refine fun ledger => I.takeUp bound (settled (?_ : I.onRun _) ledger)
  split
  · exact limited
  · exact recorded

/-- Going on unless a run raises keeps the invariant. -/
theorem onRun_unlessRaised {run : Watched β (Value β)} {next : Value β → Watched β (Value β)}
    (kept : I.onRun run) (after : ∀ {value}, I.good value → I.onRun (next value)) :
    I.onRun (run.unlessRaised next) := by
  refine I.onRun_bind kept ?_ fun raised => .inl rfl
  intro value ordinary holds
  cases value with
  | exception => exact absurd ordinary Bool.noConfusion
  | _ => exact after holds

/-- Gathering lists keeps the invariant. -/
theorem onRun_gather {next : Value β → Watched β (Value β)}
    (after : ∀ {item}, I.good item → I.onRun (next item)) {gathered items : List (Value β)}
    (before : ∀ item ∈ gathered, I.good item) (holds : ∀ item ∈ items, I.good item) :
    I.onRun (Feed.gather next gathered items) := by
  induction items generalizing gathered with
  | nil => exact I.onRun_pure (.given (I.inherited.list.mpr before))
  | cons item items ih =>
    obtain ⟨head, tail⟩ := List.forall_mem_cons.mp holds
    rw [Feed.gather]
    refine I.onRun_bind (after head) ?_ fun raised => .inl rfl
    intro value ordinary outcome
    cases value with
    | list more =>
      exact ih (List.forall_mem_append.mpr ⟨before, I.inherited.list.mp outcome⟩) tail
    | exception => exact absurd ordinary Bool.noConfusion
    | _ => exact I.onRun_pure (I.inherited.typeError (List.forall_mem_singleton.mpr outcome))

/-- Feeding a value to a context keeps the invariant. -/
theorem onRun_watchFeed {tag : String} {plan : Plan β} (found : Plan.builtIn.lookup tag = some plan)
    {value : Value β} (holds : I.good value) {next : Value β → Watched β (Value β)}
    (after : ∀ {item}, I.good item → I.onRun (next item)) :
    I.onRun (Evaluator.watchFeed tag plan value next) := by
  suffices kept : I.onRun ((plan.feed value).run next) from fun ledger => I.feed holds (kept ledger)
  have meets := (Plan.meets_of_lookup I.inherited found holds).2
  generalize plan.feed value = feed at meets ⊢
  cases feed with
  | halt result => exact I.onRun_pure meets
  | one item => exact after meets
  | each items => exact I.onRun_gather after (fun _ member => absurd member List.not_mem_nil) meets

/-- Looking up a function keeps the invariant. -/
theorem onRun_functionFor {name : String} {args : List (Expr β)} (here : I.onNode (.call name args))
    {next : Function β → Watched β (Value β)}
    (after : ∀ {function}, evaluator.function? name = some function → I.onRun (next function)) :
    I.onRun (unseen (evaluator.functionFor name) >>= next) := by
  unfold Evaluator.functionFor
  cases found : evaluator.function? name with
  | none =>
    rw [unseen_throw_bind]
    exact fun _ => I.stop here (by simp [Knows, found]) _
  | some function =>
    rw [unseen_pure_bind]
    exact after found

/-- Looking up a context keeps the invariant. -/
theorem onRun_planFor {expression : Expr β} (here : I.onNode expression) {tag : String}
    (needs : evaluator.Knows expression → (evaluator.context? tag).isSome)
    {next : Plan β → Watched β (Value β)}
    (after : ∀ {plan}, Plan.builtIn.lookup tag = some plan → I.onRun (next plan)) :
    I.onRun (unseen (Evaluator.planFor tag) >>= next) := by
  unfold Evaluator.planFor
  cases found : (Plan.builtIn : List (String × Plan β)).lookup tag with
  | none =>
    rw [unseen_throw_bind]
    refine fun _ => I.stop here (mt needs ?_) _
    rw [context?, I.standard, Context.lookup_builtIn_eq_map, found]
    exact Bool.false_ne_true
  | some plan =>
    rw [unseen_pure_bind]
    exact after found

/-- An exception passes by clauses none of which asks for one. -/
theorem watchClauses_raised {clauses : List (Clause β (Expr β))}
    (unasked : ∀ clause ∈ clauses, clause.pattern.asksForException ≠ true) (raised : Value β)
    (env : Env β) (depth : Nat) :
    evaluator.watchClauses clauses (.exception raised) env depth = pure (.exception raised) := by
  induction clauses with
  | nil =>
    rw [watchClauses]
    rfl
  | cons clause others ih =>
    obtain ⟨head, tail⟩ := List.forall_mem_cons.mp unasked
    rw [watchClauses, if_pos ⟨rfl, head⟩]
    exact ih tail

/-- A name that may be empty is bound to a value that is around. -/
theorem binds_unless_empty {env : Env β} (bound : env.Binds I.good) (name : String)
    {item : Value β} (holds : I.good item) :
    (if name = "" then env else env.bind name item).Binds I.good := by
  split
  · exact bound
  · exact bound.bind name holds

mutual

/-- Watched runs of an expression keep the invariant. -/
theorem onRun_watchAt (expression : Expr β) (every : expression.Every I.onNode) {env : Env β}
    (bound : env.Binds I.good) (depth : Nat) :
    I.onRun (evaluator.watchAt expression env depth) := by
  cases expression with
  | absent =>
    rw [watchAt]
    exact I.onRun_watchNode every bound depth fun _ => I.stop every.here id _
  | lit value =>
    rw [watchAt]
    exact I.onRun_watchNode every bound depth (I.onRun_pure (.given (I.literal every.here)))
  | var name =>
    rw [watchAt]
    refine I.onRun_watchNode every bound depth (I.onRun_pure (.given ?_))
    cases found : env.lookup name with
    | none => exact I.inherited.scalar rfl
    | some value => exact bound.lookup found
  | call name args =>
    rw [watchAt]
    refine I.onRun_watchNode every bound depth (I.onRun_functionFor every.here fun found => ?_)
    exact onRun_watchArgs args every.inside bound (depth + 1) (List.forall_mem_nil _)
      fun values => I.call found values
  | construct name ownTag args =>
    rw [watchAt]
    refine I.onRun_watchNode every bound depth ?_
    exact onRun_watchArgs args every.inside bound (depth + 1) (List.forall_mem_nil _)
      fun values => I.onRun_pure (.given (I.inherited.data.mpr values))
  | ifThenElse condition yes no =>
    rw [watchAt]
    refine I.onRun_watchNode every bound depth (I.onRun_unlessRaised ?_ fun {value} holds => ?_)
    · exact onRun_watchAt condition (every.inside _ (by simp [Expr.parts])) bound (depth + 1)
    · match value with
      | .bool true => exact onRun_watchAt yes (every.inside _ (by simp [Expr.parts])) bound _
      | .bool false => exact onRun_watchAt no (every.inside _ (by simp [Expr.parts])) bound _
      | .int _ | .char _ | .string _ | .symbol _ | .box _ | .data .. | .list _ | .exception _ =>
        exact I.onRun_pure (I.inherited.typeError (List.forall_mem_singleton.mpr holds))
  | letIn name value body =>
    rw [watchAt]
    refine I.onRun_watchNode every bound depth (I.onRun_unlessRaised ?_ fun holds => ?_)
    · exact onRun_watchAt value (every.inside _ (by simp [Expr.parts])) bound (depth + 1)
    · exact onRun_watchAt body (every.inside _ (by simp [Expr.parts])) (bound.bind name holds) _
  | letAll bindings body =>
    rw [watchAt]
    refine I.onRun_watchNode every bound depth
      (onRun_watchBindings bindings ?_ bound bound (depth + 1) ?_)
    · exact fun binding inside => every.inside _ (Expr.value_mem_parts inside)
    · exact fun inScope => onRun_watchAt body (every.inside _ (by simp [Expr.parts])) inScope _
  | case subject clauses =>
    rw [watchAt]
    have first := onRun_watchAt subject (every.inside _ (by simp [Expr.parts])) bound (depth + 1)
    have clausewise {subject : Value β} (outward : Outward I.good subject) :=
      onRun_watchClauses clauses (fun clause inside there =>
        every.inside _ (Expr.body_mem_parts inside there)) bound (depth + 1) outward
    refine I.onRun_watchNode every bound depth
      (I.onRun_bind first (fun _ holds => clausewise (.given holds)) ?_)
    -- An exception passes by the clauses, unless one of them asks for it.
    intro raised
    by_cases asked : ∃ clause ∈ clauses, clause.pattern.asksForException = true
    · obtain ⟨clause, inside, asks⟩ := asked
      exact .inr ⟨I.asking every.here inside asks, fun holds => clausewise (.raised holds)⟩
    · exact .inl (watchClauses_raised (fun clause inside asks => asked ⟨clause, inside, asks⟩) ..)
  | raise value =>
    rw [watchAt]
    refine I.onRun_watchNode every bound depth
      (I.onRun_unlessRaised ?_ fun holds => I.onRun_pure (.raised holds))
    exact onRun_watchAt value (every.inside _ (by simp [Expr.parts])) bound (depth + 1)
  | attempt body catches =>
    rw [watchAt]
    have tried := onRun_watchAt body (every.inside _ (by simp [Expr.parts])) bound (depth + 1)
    refine I.onRun_watchNode every bound depth (I.onRun_bind tried ?_ fun raised =>
      .inr ⟨I.attempting every.here, fun holds => ?_⟩)
    · intro value ordinary holds
      cases value with
      | exception => exact absurd ordinary Bool.noConfusion
      | _ => exact I.onRun_pure (.given holds)
    · exact onRun_watchCatches catches (fun clause inside =>
        ⟨every.inside _ (Expr.test_mem_parts inside),
          every.inside _ (Expr.handler_mem_parts inside)⟩) bound (depth + 1) holds
  | lift tag value =>
    rw [watchAt]
    refine I.onRun_watchNode every bound depth (I.onRun_planFor every.here id fun found =>
      I.onRun_unlessRaised ?_ fun holds =>
        I.onRun_pure (.given (Plan.meets_of_lookup I.inherited found holds).1))
    exact onRun_watchAt value (every.inside _ (by simp [Expr.parts])) bound (depth + 1)
  | bind tag value name body =>
    rw [watchAt]
    refine I.onRun_watchNode every bound depth (I.onRun_planFor every.here id fun found =>
      I.onRun_unlessRaised ?_ fun holds => I.onRun_watchFeed found holds fun item => ?_)
    · exact onRun_watchAt value (every.inside _ (by simp [Expr.parts])) bound (depth + 1)
    · exact onRun_watchAt body (every.inside _ (by simp [Expr.parts]))
        (I.binds_unless_empty bound name item) (depth + 1)
  | block tag steps =>
    rw [watchAt]
    refine I.onRun_watchNode every bound depth (I.onRun_planFor every.here id fun found => ?_)
    exact onRun_watchSteps found steps (fun step inside =>
      every.inside _ (Expr.step_mem_parts inside)) bound (depth + 1)

/-- Watched runs of arguments keep the invariant. -/
theorem onRun_watchArgs (args : List (Expr β)) (every : ∀ arg ∈ args, arg.Every I.onNode)
    {env : Env β} (bound : env.Binds I.good) (depth : Nat) {gathered : List (Value β)}
    (before : ∀ value ∈ gathered, I.good value) {next : List (Value β) → Watched β (Value β)}
    (after : ∀ {values}, (∀ value ∈ values, I.good value) → I.onRun (next values)) :
    I.onRun (evaluator.watchArgs args env depth gathered next) := by
  cases args with
  | nil =>
    rw [watchArgs]
    exact after before
  | cons first others =>
    obtain ⟨head, tail⟩ := List.forall_mem_cons.mp every
    rw [watchArgs]
    refine I.onRun_unlessRaised (onRun_watchAt first head bound depth) fun holds => ?_
    exact onRun_watchArgs others tail bound depth
      (List.forall_mem_append.mpr ⟨before, List.forall_mem_singleton.mpr holds⟩) after

/-- Watched runs of bindings keep the invariant. -/
theorem onRun_watchBindings (bindings : List (Binding (Expr β)))
    (every : ∀ binding ∈ bindings, binding.value.Every I.onNode) {env scope : Env β}
    (bound : env.Binds I.good) (inScope : scope.Binds I.good) (depth : Nat)
    {next : Env β → Watched β (Value β)}
    (after : ∀ {scope : Env β}, scope.Binds I.good → I.onRun (next scope)) :
    I.onRun (evaluator.watchBindings bindings env scope depth next) := by
  cases bindings with
  | nil =>
    rw [watchBindings]
    exact after inScope
  | cons first others =>
    obtain ⟨head, tail⟩ := List.forall_mem_cons.mp every
    rw [watchBindings]
    refine I.onRun_unlessRaised (onRun_watchAt first.value head bound depth) fun holds => ?_
    exact onRun_watchBindings others tail bound (inScope.bind first.name holds) depth after

/-- Watched runs of clauses keep the invariant. -/
theorem onRun_watchClauses (clauses : List (Clause β (Expr β)))
    (every : ∀ clause ∈ clauses, clause.body.isAbsent = false → clause.body.Every I.onNode)
    {env : Env β} (bound : env.Binds I.good) (depth : Nat) {subject : Value β}
    (outward : Outward I.good subject) :
    I.onRun (evaluator.watchClauses clauses subject env depth) := by
  cases clauses with
  | nil =>
    rw [watchClauses]
    split
    · exact I.onRun_pure outward
    · next ordinary =>
      have holds := I.good_of_outward outward (Bool.eq_false_iff.mpr ordinary)
      exact I.onRun_pure (.raised (I.inherited.wrapped.mpr holds))
  | cons clause others =>
    obtain ⟨head, tail⟩ := List.forall_mem_cons.mp every
    rw [watchClauses]
    split
    · exact onRun_watchClauses others tail bound depth outward
    · next seen =>
      cases matched : clause.pattern.unify subject with
      | none => exact onRun_watchClauses others tail bound depth outward
      | some found =>
        have binds := Pattern.binds_of_unify I.inherited outward seen matched
        dsimp only
        split
        · exact I.onRun_pure outward
        · next there =>
          exact onRun_watchAt clause.body (head (Bool.eq_false_iff.mpr there)) (bound.extend binds)
            depth

/-- Watched runs of catches keep the invariant. -/
theorem onRun_watchCatches (catches : List (Catch (Expr β)))
    (every : ∀ clause ∈ catches, clause.test.Every I.onNode ∧ clause.handler.Every I.onNode)
    {env : Env β} (bound : env.Binds I.good) (depth : Nat) {raised : Value β}
    (holds : I.good raised) : I.onRun (evaluator.watchCatches catches raised env depth) := by
  cases catches with
  | nil =>
    rw [watchCatches]
    exact I.onRun_pure (.raised holds)
  | cons clause others =>
    obtain ⟨⟨test, handler⟩, tail⟩ := List.forall_mem_cons.mp every
    have inScope := bound.bind clause.name holds
    rw [watchCatches]
    refine I.onRun_unlessRaised (onRun_watchAt clause.test test inScope depth) fun {verdict} _ => ?_
    match verdict with
    | .bool true => exact onRun_watchAt clause.handler handler inScope depth
    | .bool false | .int _ | .char _ | .string _ | .symbol _ | .box _ | .data .. | .list _
    | .exception _ => exact onRun_watchCatches others tail bound depth holds

/-- Watched runs of steps keep the invariant. -/
theorem onRun_watchSteps {tag : String} {plan : Plan β}
    (found : Plan.builtIn.lookup tag = some plan) (steps : List (Step (Expr β)))
    (every : ∀ step ∈ steps, step.value.Every I.onNode) {env : Env β} (bound : env.Binds I.good)
    (depth : Nat) : I.onRun (evaluator.watchSteps tag plan steps env depth) := by
  cases steps with
  | nil =>
    rw [watchSteps]
    have unit : I.good (.data "unit" "" []) := I.inherited.data.mpr (List.forall_mem_nil _)
    exact I.onRun_pure (.given (Plan.meets_of_lookup I.inherited found unit).1)
  | cons first others =>
    obtain ⟨head, tail⟩ := List.forall_mem_cons.mp every
    cases others with
    | nil =>
      rw [watchSteps]
      exact onRun_watchAt first.value head bound depth
    | cons second others =>
      rw [watchSteps]
      refine I.onRun_unlessRaised (onRun_watchAt first.value head bound depth) fun holds => ?_
      refine I.onRun_watchFeed found holds fun item => ?_
      exact onRun_watchSteps found (second :: others) tail
        (I.binds_unless_empty bound first.name item) (depth + 1)

end

end Invariant

end GrammarKit
