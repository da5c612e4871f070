import GrammarKit.Proofs.Correspondence
import GrammarKit.Proofs.Feed
import GrammarKit.Proofs.Run
/-!
# Watched runs of the evaluator

What happens inside a run, as opposed to what comes out of it, is made visible by watching: a
watched run lists the expressions that are taken up and the values they settle on, the calls of
functions and the values that are fed to contexts. Watching follows the evaluator construct by
construct and changes nothing: forgetting the list gives back the run (`Evaluator.plain_watchAt`).
It needs to know what contexts do with the runs they are given, so it is for evaluators with the
built-in contexts.
-/

namespace GrammarKit

variable {β : Type}

/-- Something that happens while an expression is evaluated. -/
inductive Event (β : Type) where
  /-- An expression is taken up in an environment, at a depth of nesting. -/
  | takenUp (expression : Expr β) (env : Env β) (depth : Nat)
  /-- The evaluation of an expression ends with a value. -/
  | settled (expression : Expr β) (value : Value β)
  /-- A function is called with arguments. -/
  | called (function : String) (args : List (Value β))
  /-- A value is fed to the context of a tag. -/
  | fed (tag : String) (value : Value β)

/-- How a watched run ends: what happened in it, its result and the ledger it leaves. -/
structure Ended (β α : Type) where
  /-- What happened, in order. -/
  events : List (Event β)
  /-- The value, or the fault the run stopped with. -/
  result : Except EvalFault α
  /-- What is written down by then. -/
  ledger : Ledger

/-- A run of which it is known what happens in it. -/
def Watched (β α : Type) := Ledger → Ended β α

namespace Watched

variable {α γ : Type}

/-- Goes on after a run with its value, unless it stopped. -/
def andThen (run : Watched β α) (next : α → Watched β γ) : Watched β γ := fun ledger =>
  let ended := run ledger
  match ended.result with
  | .ok value =>
    let later := next value ended.ledger
    { later with events := ended.events ++ later.events }
  | .error fault => ⟨ended.events, .error fault, ended.ledger⟩

instance : Monad (Watched β) where
  pure value ledger := ⟨[], .ok value, ledger⟩
  bind := andThen

/-- Lets something happen. -/
def see (event : Event β) : Watched β Unit := fun ledger => ⟨[event], .ok (), ledger⟩

/-- A run in which nothing happens that is watched for. -/
def unseen (run : Run α) : Watched β α := fun ledger =>
  let ended := run.run.run ledger
  ⟨[], ended.1, ended.2⟩

/-- The run without what happens in it. -/
def plain (run : Watched β α) : Run α :=
  ExceptT.mk fun ledger => ((run ledger).result, (run ledger).ledger)

/-- Goes on with the value of a run unless it is an exception, which is then the result. -/
def unlessRaised (run : Watched β (Value β)) (next : Value β → Watched β (Value β)) :
    Watched β (Value β) := do
  match ← run with
  | .exception raised => return .exception raised
  | value => next value

/-- A run that gives a value goes on with it, from the ledger it leaves. -/
theorem bind_ok {run : Watched β α} (next : α → Watched β γ) {ledger after : Ledger}
    {events : List (Event β)} {value : α} (ended : run ledger = ⟨events, .ok value, after⟩) :
    (run >>= next) ledger =
      { next value after with events := events ++ (next value after).events } := by
  change andThen run next ledger = _
  unfold andThen
  rw [ended]

/-- A run that stops does not go on. -/
theorem bind_error {run : Watched β α} (next : α → Watched β γ) {ledger after : Ledger}
    {events : List (Event β)} {fault : EvalFault}
    (ended : run ledger = ⟨events, .error fault, after⟩) :
    (run >>= next) ledger = ⟨events, .error fault, after⟩ := by
  change andThen run next ledger = _
  unfold andThen
  rw [ended]

/-- An unseen value is gone on with. -/
theorem unseen_pure_bind (value : α) (next : α → Watched β γ) :
    unseen (pure value) >>= next = next value := rfl

/-- An unseen fault is not gone on after. -/
theorem unseen_throw_bind (fault : EvalFault) (next : α → Watched β γ) :
    unseen (throw fault) >>= next = unseen (throw fault) := rfl

/-! ## Forgetting what happened -/

/-- The run without what happens in it has the same result and leaves the same ledger. -/
theorem run_plain (run : Watched β α) (ledger : Ledger) :
    run.plain.run.run ledger = ((run ledger).result, (run ledger).ledger) := rfl

@[simp] theorem plain_pure (value : α) : (pure value : Watched β α).plain = pure value := rfl

@[simp] theorem plain_see (event : Event β) : (see event).plain = pure () := rfl

@[simp] theorem plain_unseen (run : Run α) : (unseen run : Watched β α).plain = run := rfl

@[simp] theorem plain_bind (run : Watched β α) (next : α → Watched β γ) :
    (run >>= next).plain = run.plain >>= fun value => (next value).plain := by
  refine funext fun ledger => ?_
  change (run >>= next).plain.run.run ledger =
    (run.plain >>= fun value => (next value).plain).run.run ledger
  rw [Run.run_bind, run_plain, run_plain]
  rcases ended : run ledger with ⟨events, result, after⟩
  cases result with
  | ok value =>
    rw [bind_ok next ended]
    rfl
  | error fault => rw [bind_error next ended]

/-- Going on unless a run raises is the same watched and unwatched. -/
theorem plain_unlessRaised (run : Watched β (Value β)) (next : Value β → Watched β (Value β)) :
    (run.unlessRaised next).plain = run.plain.unlessRaised fun value => (next value).plain := by
  unfold unlessRaised Run.unlessRaised
  rw [plain_bind]
  refine congrArg (run.plain >>= ·) (funext fun value => ?_)
  cases value <;> rfl

/-- Gathering lists is the same watched and unwatched. -/
theorem plain_gather (next : Value β → Watched β (Value β)) (gathered items : List (Value β)) :
    (Feed.gather next gathered items).plain =
      Feed.gather (fun item => (next item).plain) gathered items := by
  induction items generalizing gathered with
  | nil => rfl
  | cons item items ih =>
    rw [Feed.gather, Feed.gather, plain_bind]
    refine congrArg ((next item).plain >>= ·) (funext fun value => ?_)
    cases value with
    | list more => exact ih (gathered ++ more)
    | _ => rfl

/-- Running a feed is the same watched and unwatched. -/
theorem plain_feed (next : Value β → Watched β (Value β)) (feed : Feed β) :
    (feed.run next).plain = feed.run fun item => (next item).plain := by
  cases feed with
  | halt result => rfl
  | one item => rfl
  | each items => exact plain_gather next [] items

end Watched

namespace Evaluator

open Watched

/-- The plan that the context of a tag follows; a tag without one is a fault. -/
def planFor (tag : String) : Run (Plan β) :=
  match Plan.builtIn.lookup tag with
  | some plan => return plan
  | none => throw (.unregisteredContext tag)

/-- The context of a tag follows its plan, when only the built-in contexts are there. -/
theorem contextFor_eq_planFor {evaluator : Evaluator β}
    (standard : evaluator.contexts = Context.builtIn) (tag : String) :
    evaluator.contextFor tag = planFor tag >>= fun plan => pure plan.context := by
  rw [contextFor, context?, standard, Context.lookup_builtIn_eq_map, planFor]
  cases Plan.builtIn.lookup tag <;> rfl

/-- Feeds a value to the context of a tag. -/
def watchFeed (tag : String) (plan : Plan β) (value : Value β)
    (next : Value β → Watched β (Value β)) : Watched β (Value β) := do
  see (.fed tag value)
  (plan.feed value).run next

/-- Feeding a value watched follows the context of the plan. -/
theorem plain_watchFeed (tag : String) (plan : Plan β) (value : Value β)
    (next : Value β → Watched β (Value β)) :
    (watchFeed tag plan value next).plain =
      plan.context.bind value fun item => (next item).plain := by
  rw [watchFeed, plain_bind, plain_see, pure_bind, plain_feed]
  rfl

variable [Payload β]

/-- Records an expression when tracing is on. -/
def record (evaluator : Evaluator β) (expression : Expr β) (depth : Nat) : Run Unit :=
  if evaluator.trace then
    match expression.text? with
    | some text => Run.trace (.evaluate text depth)
    | none => throw .untraceable
  else return

/-- Within the limit an expression is taken up by recording it. -/
theorem takeUp_eq_record (evaluator : Evaluator β) (expression : Expr β) (depth : Nat)
    (run : Run (Value β)) :
    evaluator.takeUp expression depth run =
      if evaluator.Beyond depth then pure (limitExceeded evaluator.maxDepth)
      else evaluator.record expression depth >>= fun _ => run := by
  by_cases beyond : evaluator.Beyond depth
  · rw [takeUp_beyond beyond, if_pos beyond]
  rw [if_neg beyond, record]
  cases traced : evaluator.trace with
  | false => simp [takeUp_untraced beyond traced]
  | true =>
    cases shown : expression.text? with
    | none =>
      rw [takeUp_untraceable beyond traced shown]
      rfl
    | some text =>
      rw [takeUp_traced beyond traced shown]
      rfl

/-- Takes up an expression, records it unless it is past the limit, and settles on a value. -/
def watchNode (evaluator : Evaluator β) (expression : Expr β) (env : Env β) (depth : Nat)
    (evaluation : Watched β (Value β)) : Watched β (Value β) := do
  see (.takenUp expression env depth)
  let value ← (if evaluator.Beyond depth then pure (limitExceeded evaluator.maxDepth)
    else unseen (evaluator.record expression depth) >>= fun _ => evaluation)
  see (.settled expression value)
  return value

mutual

/-- Watches the evaluation of an expression; see `evalAt`. -/
def watchAt (evaluator : Evaluator β) (expression : Expr β) (env : Env β) (depth : Nat) :
    Watched β (Value β) :=
  evaluator.watchNode expression env depth <|
    match expression with
    | .absent => unseen (throw .hole)
    | .lit value => return value
    | .var name => return (env.lookup name).getD (.symbol name)
    | .call name args => do
      let function ← unseen (evaluator.functionFor name)
      watchArgs evaluator args env (depth + 1) [] fun values => do
        see (.called name values)
        unseen (function values)
    | .construct name ownTag args =>
      watchArgs evaluator args env (depth + 1) [] fun values => return .data name ownTag values
    | .ifThenElse condition yes no =>
      (watchAt evaluator condition env (depth + 1)).unlessRaised fun value =>
        match value with
        | .bool true => watchAt evaluator yes env (depth + 1)
        | .bool false => watchAt evaluator no env (depth + 1)
        | other => return .typeError "if" [other]
    | .letIn name value body =>
      (watchAt evaluator value env (depth + 1)).unlessRaised fun value =>
        watchAt evaluator body (env.bind name value) (depth + 1)
    | .letAll bindings body =>
      watchBindings evaluator bindings env env (depth + 1) fun scope =>
        watchAt evaluator body scope (depth + 1)
    | .case subject clauses => do
      let subject ← watchAt evaluator subject env (depth + 1)
      watchClauses evaluator clauses subject env (depth + 1)
    | .raise value =>
      (watchAt evaluator value env (depth + 1)).unlessRaised fun value => return .exception value
    | .attempt body catches => do
      match ← watchAt evaluator body env (depth + 1) with
      | .exception raised => watchCatches evaluator catches raised env (depth + 1)
      | value => return value
    | .lift tag value => do
      let plan ← unseen (planFor tag)
      (watchAt evaluator value env (depth + 1)).unlessRaised fun value => return plan.lift value
    | .bind tag value name body => do
      let plan ← unseen (planFor tag)
      (watchAt evaluator value env (depth + 1)).unlessRaised fun value =>
        watchFeed tag plan value fun item =>
          watchAt evaluator body (if name = "" then env else env.bind name item) (depth + 1)
    | .block tag steps => do
      let plan ← unseen (planFor tag)
      watchSteps evaluator tag plan steps env (depth + 1)

/-- Watches the evaluation of arguments; see `evalArgs`. -/
def watchArgs (evaluator : Evaluator β) (args : List (Expr β)) (env : Env β) (depth : Nat)
    (gathered : List (Value β)) (next : List (Value β) → Watched β (Value β)) :
    Watched β (Value β) :=
  match args with
  | [] => next gathered
  | first :: others =>
    (watchAt evaluator first env depth).unlessRaised fun value =>
      watchArgs evaluator others env depth (gathered ++ [value]) next

/-- Watches the evaluation of bindings; see `evalBindings`. -/
def watchBindings (evaluator : Evaluator β) (bindings : List (Binding (Expr β)))
    (env scope : Env β) (depth : Nat) (next : Env β → Watched β (Value β)) :
    Watched β (Value β) :=
  match bindings with
  | [] => next scope
  | ⟨name, value⟩ :: others =>
    (watchAt evaluator value env depth).unlessRaised fun value =>
      watchBindings evaluator others env (scope.bind name value) depth next

/-- Watches the evaluation of clauses; see `evalClauses`. -/
def watchClauses (evaluator : Evaluator β) (clauses : List (Clause β (Expr β)))
    (subject : Value β) (env : Env β) (depth : Nat) : Watched β (Value β) :=
  match clauses with
  | [] =>
    if subject.isException then return subject
    else return .exception (.data "no_case_matched" "" [subject])
  | ⟨pattern, body⟩ :: others =>
    if subject.isException ∧ ¬ pattern.asksForException then
      watchClauses evaluator others subject env depth
    else
      match pattern.unify subject with
      | none => watchClauses evaluator others subject env depth
      | some found =>
        if body.isAbsent then return subject
        else watchAt evaluator body (env.extend found) depth

/-- Watches the evaluation of catches; see `evalCatches`. -/
def watchCatches (evaluator : Evaluator β) (catches : List (Catch (Expr β))) (raised : Value β)
    (env : Env β) (depth : Nat) : Watched β (Value β) :=
  match catches with
  | [] => return .exception raised
  | ⟨name, test, handler⟩ :: others =>
    (watchAt evaluator test (env.bind name raised) depth).unlessRaised fun verdict =>
      match verdict with
      | .bool true => watchAt evaluator handler (env.bind name raised) depth
      | _ => watchCatches evaluator others raised env depth

/-- Watches the evaluation of steps; see `evalSteps`. -/
def watchSteps (evaluator : Evaluator β) (tag : String) (plan : Plan β)
    (steps : List (Step (Expr β))) (env : Env β) (depth : Nat) : Watched β (Value β) :=
  match steps with
  | [] => return plan.lift (.data "unit" "" [])
  | [⟨_, value⟩] => watchAt evaluator value env depth
  | ⟨name, value⟩ :: second :: others =>
    (watchAt evaluator value env depth).unlessRaised fun value =>
      watchFeed tag plan value fun item =>
        watchSteps evaluator tag plan (second :: others)
          (if name = "" then env else env.bind name item) (depth + 1)

end

/-! ## Watching changes nothing -/

/-- A node is taken up watched as it is unwatched. -/
theorem plain_watchNode (evaluator : Evaluator β) (expression : Expr β) (env : Env β)
    (depth : Nat) (evaluation : Watched β (Value β)) :
    (evaluator.watchNode expression env depth evaluation).plain =
      evaluator.takeUp expression depth evaluation.plain := by
  rw [takeUp_eq_record, watchNode]
  split <;> simp

mutual

/-- Without what happens in it a watched evaluation is the evaluation. -/
theorem plain_watchAt {evaluator : Evaluator β} (standard : evaluator.contexts = Context.builtIn)
    (expression : Expr β) (env : Env β) (depth : Nat) :
    (evaluator.watchAt expression env depth).plain = evaluator.evalAt expression env depth := by
  cases expression with
  | absent | lit | var =>
    rw [watchAt, evalAt, plain_watchNode]
    rfl
  | call name args =>
    rw [watchAt, evalAt, plain_watchNode]
    simp [plain_watchArgs standard args]
  | construct name ownTag args =>
    rw [watchAt, evalAt, plain_watchNode]
    simp [plain_watchArgs standard args]
  | ifThenElse condition yes no =>
    rw [watchAt, evalAt, plain_watchNode, plain_unlessRaised, plain_watchAt standard condition]
    refine congrArg (evaluator.takeUp _ depth) (congrArg (Run.unlessRaised _) ?_)
    funext value
    match value with
    | .bool true => exact plain_watchAt standard yes ..
    | .bool false => exact plain_watchAt standard no ..
    | .int _ | .char _ | .string _ | .symbol _ | .box _ | .data .. | .list _ | .exception _ => rfl
  | letIn name value body =>
    rw [watchAt, evalAt, plain_watchNode, plain_unlessRaised, plain_watchAt standard value]
    refine congrArg (evaluator.takeUp _ depth) (congrArg (Run.unlessRaised _) ?_)
    funext value
    exact plain_watchAt standard body ..
  | letAll bindings body =>
    rw [watchAt, evalAt, plain_watchNode, plain_watchBindings standard bindings]
    refine congrArg (evaluator.takeUp _ depth) (congrArg (evaluator.evalBindings _ _ _ _) ?_)
    funext scope
    exact plain_watchAt standard body ..
  | case subject clauses =>
    rw [watchAt, evalAt, plain_watchNode, plain_bind, plain_watchAt standard subject]
    refine congrArg (evaluator.takeUp _ depth) (congrArg (Bind.bind _) (funext fun subject => ?_))
    exact plain_watchClauses standard clauses subject ..
  | raise value =>
    rw [watchAt, evalAt, plain_watchNode, plain_unlessRaised, plain_watchAt standard value]
    rfl
  | attempt body catches =>
    rw [watchAt, evalAt, plain_watchNode, plain_bind, plain_watchAt standard body]
    refine congrArg (evaluator.takeUp _ depth) (congrArg (Bind.bind _) (funext fun value => ?_))
    cases value with
    | exception raised => exact plain_watchCatches standard catches raised ..
    | _ => rfl
  | lift tag value =>
    rw [watchAt, evalAt, plain_watchNode, plain_bind, plain_unseen,
      contextFor_eq_planFor standard, bind_assoc]
    refine congrArg (evaluator.takeUp _ depth) (congrArg (Bind.bind _) (funext fun plan => ?_))
    rw [pure_bind, plain_unlessRaised, plain_watchAt standard value]
    rfl
  | bind tag value name body =>
    rw [watchAt, evalAt, plain_watchNode, plain_bind, plain_unseen,
      contextFor_eq_planFor standard, bind_assoc]
    refine congrArg (evaluator.takeUp _ depth) (congrArg (Bind.bind _) (funext fun plan => ?_))
    rw [pure_bind, plain_unlessRaised, plain_watchAt standard value]
    refine congrArg (Run.unlessRaised _) (funext fun value => ?_)
    rw [plain_watchFeed]
    refine congrArg (plan.context.bind value) (funext fun item => ?_)
    exact plain_watchAt standard body ..
  | block tag steps =>
    rw [watchAt, evalAt, plain_watchNode, plain_bind, plain_unseen,
      contextFor_eq_planFor standard, bind_assoc]
    refine congrArg (evaluator.takeUp _ depth) (congrArg (Bind.bind _) (funext fun plan => ?_))
    rw [pure_bind]
    exact plain_watchSteps standard tag plan steps ..

/-- Without what happens in it a watched evaluation of arguments is their evaluation. -/
theorem plain_watchArgs {evaluator : Evaluator β} (standard : evaluator.contexts = Context.builtIn)
    (args : List (Expr β)) (env : Env β) (depth : Nat) (gathered : List (Value β))
    (next : List (Value β) → Watched β (Value β)) :
    (evaluator.watchArgs args env depth gathered next).plain =
      evaluator.evalArgs args env depth gathered fun values => (next values).plain := by
  cases args with
  | nil => rw [watchArgs, evalArgs]
  | cons first others =>
    rw [watchArgs, evalArgs, plain_unlessRaised, plain_watchAt standard first]
    refine congrArg (Run.unlessRaised _) (funext fun value => ?_)
    exact plain_watchArgs standard others env depth (gathered ++ [value]) next

/-- Without what happens in it a watched evaluation of bindings is their evaluation. -/
theorem plain_watchBindings {evaluator : Evaluator β}
    (standard : evaluator.contexts = Context.builtIn) (bindings : List (Binding (Expr β)))
    (env scope : Env β) (depth : Nat) (next : Env β → Watched β (Value β)) :
    (evaluator.watchBindings bindings env scope depth next).plain =
      evaluator.evalBindings bindings env scope depth fun scope => (next scope).plain := by
  cases bindings with
  | nil => rw [watchBindings, evalBindings]
  | cons first others =>
    rw [watchBindings, evalBindings, plain_unlessRaised, plain_watchAt standard first.value]
    refine congrArg (Run.unlessRaised _) (funext fun value => ?_)
    exact plain_watchBindings standard others env (scope.bind first.name value) depth next

/-- Without what happens in it a watched evaluation of clauses is their evaluation. -/
theorem plain_watchClauses {evaluator : Evaluator β}
    (standard : evaluator.contexts = Context.builtIn) (clauses : List (Clause β (Expr β)))
    (subject : Value β) (env : Env β) (depth : Nat) :
    (evaluator.watchClauses clauses subject env depth).plain =
      evaluator.evalClauses clauses subject env depth := by
  cases clauses with
  | nil =>
    rw [watchClauses, evalClauses]
    split <;> rfl
  | cons clause others =>
    rw [watchClauses, evalClauses_cons]
    split
    · exact plain_watchClauses standard others subject env depth
    · cases clause.pattern.unify subject with
      | none => exact plain_watchClauses standard others subject env depth
      | some found =>
        dsimp only
        split
        · rfl
        · exact plain_watchAt standard clause.body (env.extend found) depth

/-- Without what happens in it a watched evaluation of catches is their evaluation. -/
theorem plain_watchCatches {evaluator : Evaluator β}
    (standard : evaluator.contexts = Context.builtIn) (catches : List (Catch (Expr β)))
    (raised : Value β) (env : Env β) (depth : Nat) :
    (evaluator.watchCatches catches raised env depth).plain =
      evaluator.evalCatches catches raised env depth := by
  cases catches with
  | nil => rw [watchCatches, evalCatches, plain_pure]
  | cons clause others =>
    rw [watchCatches, evalCatches, plain_unlessRaised, plain_watchAt standard clause.test]
    refine congrArg (Run.unlessRaised _) (funext fun verdict => ?_)
    match verdict with
    | .bool true => exact plain_watchAt standard clause.handler (env.bind clause.name raised) depth
    | .bool false | .int _ | .char _ | .string _ | .symbol _ | .box _ | .data .. | .list _
    | .exception _ => exact plain_watchCatches standard others raised env depth

/-- Without what happens in it a watched evaluation of steps is their evaluation. -/
theorem plain_watchSteps {evaluator : Evaluator β}
    (standard : evaluator.contexts = Context.builtIn) (tag : String) (plan : Plan β)
    (steps : List (Step (Expr β))) (env : Env β) (depth : Nat) :
    (evaluator.watchSteps tag plan steps env depth).plain =
      evaluator.evalSteps plan.context steps env depth := by
  cases steps with
  | nil =>
    rw [watchSteps, evalSteps]
    rfl
  | cons first others =>
    cases others with
    | nil =>
      rw [watchSteps, evalSteps]
      exact plain_watchAt standard first.value env depth
    | cons second others =>
      rw [watchSteps, evalSteps, plain_unlessRaised, plain_watchAt standard first.value]
      refine congrArg (Run.unlessRaised _) (funext fun value => ?_)
      rw [plain_watchFeed]
      refine congrArg (plan.context.bind value) (funext fun item => ?_)
      exact plain_watchSteps standard tag plan (second :: others) _ (depth + 1)

end

/-! ## Expressions from taking up to settling -/

/-- What is watched of a node that ends with a value starts with taking it up and ends with settling
it on the value. -/
theorem events_watchNode {evaluator : Evaluator β} {expression : Expr β} {env : Env β} {depth : Nat}
    {evaluation : Watched β (Value β)} {ledger : Ledger} {value : Value β}
    (given : (evaluator.watchNode expression env depth evaluation ledger).result = .ok value) :
    ∃ inner, (evaluator.watchNode expression env depth evaluation ledger).events =
      .takenUp expression env depth :: (inner ++ [.settled expression value]) := by
  unfold watchNode at given ⊢
  generalize (if evaluator.Beyond depth then pure (limitExceeded evaluator.maxDepth)
    else unseen (evaluator.record expression depth) >>= fun _ => evaluation) = run at given ⊢
  rw [bind_ok _ (rfl : see (.takenUp expression env depth) ledger = ⟨_, .ok (), ledger⟩)] at given ⊢
  rcases ended : run ledger with ⟨inner, result, after⟩
  cases result with
  | error fault =>
    rw [bind_error _ ended] at given
    cases given
  | ok value' =>
    rw [bind_ok _ ended] at given ⊢
    obtain rfl : value' = value := Except.ok.inj given
    exact ⟨inner, rfl⟩

/-- What is watched of an evaluation that gives a value starts with taking up the expression and
ends with settling it on the value. -/
theorem events_watchAt {evaluator : Evaluator β} {expression : Expr β} {env : Env β} {depth : Nat}
    {ledger : Ledger} {value : Value β}
    (given : (evaluator.watchAt expression env depth ledger).result = .ok value) :
    ∃ inner, (evaluator.watchAt expression env depth ledger).events =
      .takenUp expression env depth :: (inner ++ [.settled expression value]) := by
  rw [watchAt.eq_def] at given ⊢
  exact events_watchNode given

end Evaluator

end GrammarKit
