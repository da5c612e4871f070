import GrammarKit.Evaluator.Basic
import GrammarKit.Proofs.Expr
import GrammarKit.Proofs.Pattern
import Mathlib.Data.List.Forall2
/-!
# Two runs of the evaluator

A correspondence says which runs of two evaluators go together. Its laws are about the few things
that evaluation does with runs: give a value, stop, go on with a value, call a function, feed a
context and take up an expression. From these laws each form of the language carries corresponding
runs of its parts to corresponding runs of the whole, in whatever environments and at whatever
depths the two sides are. A theorem about two ways to evaluate is then the choice of a
correspondence, a proof of its laws and an induction over expressions that names the form's lemma in
each case, or `Correspondence.of_placed` for all forms at once where both sides evaluate the same.
-/

namespace GrammarKit

open Evaluator

variable {β : Type} [Payload β]

/-- Which runs of two evaluators correspond, and why evaluation keeps them so. -/
structure Correspondence (first second : Evaluator β) where
  /-- Whether two runs correspond. -/
  onRun : Run (Value β) → Run (Value β) → Prop
  /-- Whether two expressions at their depths may be taken up side by side. -/
  onNode : Expr β → Nat → Expr β → Nat → Prop
  /-- Whether exceptions may be caught. -/
  catching : Prop
  /-- Clauses that ask for an exception may catch one. -/
  asking : ∀ {subject clauses clause depth expression' depth'},
    onNode (.case subject clauses) depth expression' depth' → clause ∈ clauses →
      clause.pattern.asksForException = true → catching
  /-- Attempts may catch an exception. -/
  attempting : ∀ {body catches depth expression' depth'},
    onNode (.attempt body catches) depth expression' depth' → catching
  /-- Giving the same value corresponds. -/
  give : ∀ value, onRun (pure value) (pure value)
  /-- Stopping with the same fault corresponds. -/
  stop : ∀ fault, onRun (throw fault) (throw fault)
  /-- Corresponding runs go on to corresponding runs, when exceptions are passed on or may be
  caught. -/
  andThen : ∀ {run run' next next'}, onRun run run' → (∀ value, onRun (next value) (next' value)) →
    (∀ raised, next (.exception raised) = pure (.exception raised)) ∨ catching →
      onRun (run >>= next) (run' >>= next')
  /-- A name refers to corresponding functions. -/
  functions : ∀ name, Option.Rel
    (fun function function' => ∀ args, onRun (function args) (function' args))
    (first.function? name) (second.function? name)
  /-- A tag is governed by contexts that lift alike and feed corresponding runs to corresponding
  runs. -/
  contexts : ∀ tag, Option.Rel
    (fun context context' => (∀ value, context.lift value = context'.lift value) ∧
      ∀ value {next next'}, (∀ item, onRun (next item) (next' item)) →
        onRun (context.bind value next) (context'.bind value next'))
    (first.context? tag) (second.context? tag)
  /-- Taking up expressions side by side keeps runs corresponding. -/
  takeUp : ∀ {expression depth expression' depth' run run'},
    onNode expression depth expression' depth' → onRun run run' →
      onRun (first.takeUp expression depth run) (second.takeUp expression' depth' run')

/-- What may be missing is related to itself when it is wherever it is there. -/
theorem rel_self {α : Type} {related : α → α → Prop} {found : Option α}
    (each : ∀ item, found = some item → related item item) : Option.Rel related found found := by
  cases found with
  | none => exact .none
  | some item => exact .some (each item rfl)

/-- The clauses of a case from the first on: those that do not match are passed by. -/
theorem Evaluator.evalClauses_cons (evaluator : Evaluator β) (clause : Clause β (Expr β))
    (others : List (Clause β (Expr β))) (subject : Value β) (env : Env β) (depth : Nat) :
    evaluator.evalClauses (clause :: others) subject env depth =
      if subject.isException ∧ ¬ clause.pattern.asksForException then
        evaluator.evalClauses others subject env depth
      else
        match clause.pattern.unify subject with
        | none => evaluator.evalClauses others subject env depth
        | some found =>
          if clause.body.isAbsent then pure subject
          else evaluator.evalAt clause.body (env.extend found) depth := by
  obtain ⟨pattern, body⟩ := clause
  cases body <;> rw [evalClauses] <;> rfl

/-- An exception passes by clauses none of which asks for one. -/
theorem Evaluator.evalClauses_raised (evaluator : Evaluator β) {clauses : List (Clause β (Expr β))}
    (unasked : ∀ clause ∈ clauses, clause.pattern.asksForException ≠ true) (raised : Value β)
    (env : Env β) (depth : Nat) :
    evaluator.evalClauses clauses (.exception raised) env depth = pure (.exception raised) := by
  induction clauses with
  | nil =>
    rw [evalClauses]
    rfl
  | cons clause others ih =>
    obtain ⟨head, tail⟩ := List.forall_mem_cons.mp unasked
    rw [evalClauses_cons, if_pos ⟨rfl, head⟩]
    exact ih tail

namespace Correspondence

variable {first second : Evaluator β} (C : Correspondence first second) {env env' : Env β}
  {depth depth' : Nat}

/-- Whether evaluating an expression on one side corresponds to evaluating one on the other. -/
abbrev OnTask (expression : Expr β) (env : Env β) (depth : Nat) (expression' : Expr β)
    (env' : Env β) (depth' : Nat) : Prop :=
  C.onRun (first.evalAt expression env depth) (second.evalAt expression' env' depth')

/-- Whether corresponding evaluations of two expressions make related runs of taking them up. -/
abbrev Takes (whole : Run (Value β) → Run (Value β) → Prop) (expression : Expr β) (depth : Nat)
    (expression' : Expr β) (depth' : Nat) : Prop :=
  ∀ {run run'}, C.onRun run run' →
    whole (first.takeUp expression depth run) (second.takeUp expression' depth' run')

/-- Whether two contexts lift alike and feed corresponding runs to corresponding runs. -/
abbrev OnContext (context context' : Context β) : Prop :=
  (∀ value, context.lift value = context'.lift value) ∧
    ∀ value {next next'}, (∀ item, C.onRun (next item) (next' item)) →
      C.onRun (context.bind value next) (context'.bind value next')

/-! ## Going on after a run -/

/-- Corresponding runs go on to corresponding runs unless they raise. -/
theorem unlessRaised {run run' : Run (Value β)} {next next' : Value β → Run (Value β)}
    (related : C.onRun run run')
    (after : ∀ value, value.isException = false → C.onRun (next value) (next' value)) :
    C.onRun (run.unlessRaised next) (run'.unlessRaised next') := by
  refine C.andThen related (fun value => ?_) (.inl fun raised => rfl)
  cases value with
  | exception raised => exact C.give _
  | _ => exact after _ rfl

/-- What follows the look-up of a function corresponds when it does for corresponding functions. -/
theorem functionFor (name : String) {next next' : Function β → Run (Value β)}
    (after : ∀ function function', (∀ args, C.onRun (function args) (function' args)) →
      C.onRun (next function) (next' function')) :
    C.onRun (first.functionFor name >>= next) (second.functionFor name >>= next') := by
  have related := C.functions name
  unfold Evaluator.functionFor
  generalize first.function? name = found, second.function? name = found' at related ⊢
  cases related with
  | none => exact C.stop _
  | some same => simpa using after _ _ same

/-- What follows the look-up of a context corresponds when it does for corresponding contexts. -/
theorem contextFor (tag : String) {next next' : Context β → Run (Value β)}
    (after : ∀ context context', C.OnContext context context' →
      C.onRun (next context) (next' context')) :
    C.onRun (first.contextFor tag >>= next) (second.contextFor tag >>= next') := by
  have related := C.contexts tag
  unfold Evaluator.contextFor
  generalize first.context? tag = found, second.context? tag = found' at related ⊢
  cases related with
  | none => exact C.stop _
  | some same => simpa using after _ _ same

/-! ## Forms without lists

Evaluating a form is by definition taking up what the form comes to.
-/

variable {whole : Run (Value β) → Run (Value β) → Prop}

/-- Holes correspond: neither can be evaluated. -/
theorem absent (takes : C.Takes whole .absent depth .absent depth') :
    whole (first.evalAt .absent env depth) (second.evalAt .absent env' depth') :=
  takes (C.stop _)

/-- A literal corresponds to itself. -/
theorem lit {value : Value β} (takes : C.Takes whole (.lit value) depth (.lit value) depth') :
    whole (first.evalAt (.lit value) env depth) (second.evalAt (.lit value) env' depth') :=
  takes (C.give value)

/-- A variable that is bound alike corresponds to itself. -/
theorem var {name : String} (takes : C.Takes whole (.var name) depth (.var name) depth')
    (same : env.lookup name = env'.lookup name) :
    whole (first.evalAt (.var name) env depth) (second.evalAt (.var name) env' depth') := by
  refine takes ?_
  rw [same]
  exact C.give _

/-- Conditionals with corresponding parts correspond. -/
theorem ifThenElse {condition yes no condition' yes' no' : Expr β}
    (takes : C.Takes whole (.ifThenElse condition yes no) depth (.ifThenElse condition' yes' no')
      depth')
    (test : C.OnTask condition env (depth + 1) condition' env' (depth' + 1))
    (affirmed : C.OnTask yes env (depth + 1) yes' env' (depth' + 1))
    (denied : C.OnTask no env (depth + 1) no' env' (depth' + 1)) :
    whole (first.evalAt (.ifThenElse condition yes no) env depth)
      (second.evalAt (.ifThenElse condition' yes' no') env' depth') := by
  apply takes
  apply C.unlessRaised test
  intro value ordinary
  match value with
  | .bool true => exact affirmed
  | .bool false => exact denied
  | .int _ | .char _ | .string _ | .symbol _ | .box _ | .data .. | .list _ | .exception _ =>
    exact C.give _

/-- Bindings of corresponding values in corresponding bodies correspond. -/
theorem letIn {name : String} {value body value' body' : Expr β}
    (takes : C.Takes whole (.letIn name value body) depth (.letIn name value' body') depth')
    (bound : C.OnTask value env (depth + 1) value' env' (depth' + 1))
    (inside : ∀ value, C.OnTask body (env.bind name value) (depth + 1) body'
      (env'.bind name value) (depth' + 1)) :
    whole (first.evalAt (.letIn name value body) env depth)
      (second.evalAt (.letIn name value' body') env' depth') :=
  takes (C.unlessRaised bound fun value _ => inside value)

/-- Raising corresponding values corresponds. -/
theorem raise {value value' : Expr β}
    (takes : C.Takes whole (.raise value) depth (.raise value') depth')
    (raised : C.OnTask value env (depth + 1) value' env' (depth' + 1)) :
    whole (first.evalAt (.raise value) env depth) (second.evalAt (.raise value') env' depth') :=
  takes (C.unlessRaised raised fun _ _ => C.give _)

/-- Lifting corresponding values corresponds. -/
theorem lift {tag : String} {value value' : Expr β}
    (takes : C.Takes whole (.lift tag value) depth (.lift tag value') depth')
    (lifted : C.OnTask value env (depth + 1) value' env' (depth' + 1)) :
    whole (first.evalAt (.lift tag value) env depth)
      (second.evalAt (.lift tag value') env' depth') := by
  apply takes
  apply C.contextFor
  intro context context' same
  apply C.unlessRaised lifted
  intro value ordinary
  rw [same.1]
  exact C.give _

/-- Feeding corresponding values to corresponding bodies corresponds. -/
theorem bind {tag name : String} {value body value' body' : Expr β}
    (takes : C.Takes whole (.bind tag value name body) depth (.bind tag value' name body')
      depth')
    (fed : C.OnTask value env (depth + 1) value' env' (depth' + 1))
    (inside : ∀ item, C.OnTask body (if name = "" then env else env.bind name item) (depth + 1)
      body' (if name = "" then env' else env'.bind name item) (depth' + 1)) :
    whole (first.evalAt (.bind tag value name body) env depth)
      (second.evalAt (.bind tag value' name body') env' depth') := by
  apply takes
  apply C.contextFor
  intro context context' same
  exact C.unlessRaised fed fun value _ => same.2 value inside

/-! ## Forms with lists -/

/-- Arguments that correspond one by one go on correspondingly with their values. -/
theorem args {args args' : List (Expr β)}
    (related : List.Forall₂ (fun arg arg' => C.OnTask arg env depth arg' env' depth') args args')
    (gathered : List (Value β)) {next next' : List (Value β) → Run (Value β)}
    (after : ∀ values, C.onRun (next values) (next' values)) :
    C.onRun (first.evalArgs args env depth gathered next)
      (second.evalArgs args' env' depth' gathered next') := by
  induction related generalizing gathered with
  | nil =>
    rw [evalArgs, evalArgs]
    exact after gathered
  | cons head tail ih =>
    rw [evalArgs, evalArgs]
    exact C.unlessRaised head fun value _ => ih (gathered ++ [value])

/-- Calls with corresponding arguments correspond. -/
theorem call {name : String} {args args' : List (Expr β)}
    (takes : C.Takes whole (.call name args) depth (.call name args') depth')
    (related : List.Forall₂
      (fun arg arg' => C.OnTask arg env (depth + 1) arg' env' (depth' + 1)) args args') :
    whole (first.evalAt (.call name args) env depth)
      (second.evalAt (.call name args') env' depth') := by
  apply takes
  apply C.functionFor
  intro function function' same
  exact C.args related [] same

/-- Constructions from corresponding arguments correspond. -/
theorem construct {name ownTag : String} {args args' : List (Expr β)}
    (takes : C.Takes whole (.construct name ownTag args) depth (.construct name ownTag args')
      depth')
    (related : List.Forall₂
      (fun arg arg' => C.OnTask arg env (depth + 1) arg' env' (depth' + 1)) args args') :
    whole (first.evalAt (.construct name ownTag args) env depth)
      (second.evalAt (.construct name ownTag args') env' depth') :=
  takes (C.args related [] fun _ => C.give _)

/-- Whether two bindings bind the same name to corresponding values. -/
def OnBinding (env : Env β) (depth : Nat) (env' : Env β) (depth' : Nat)
    (binding binding' : Binding (Expr β)) : Prop :=
  binding.name = binding'.name ∧ C.OnTask binding.value env depth binding'.value env' depth'

/-- Bindings that correspond one by one go on correspondingly in the scopes that have them all. -/
theorem bindings {bindings bindings' : List (Binding (Expr β))}
    (related : List.Forall₂ (C.OnBinding env depth env' depth') bindings bindings')
    (scope scope' : Env β) {next next' : Env β → Run (Value β)}
    (after : ∀ values : List (Value β), values.length = bindings.length →
      C.onRun (next (scope.bindAll ((bindings.map (·.name)).zip values)))
        (next' (scope'.bindAll ((bindings.map (·.name)).zip values)))) :
    C.onRun (first.evalBindings bindings env scope depth next)
      (second.evalBindings bindings' env' scope' depth' next') := by
  induction related generalizing scope scope' with
  | nil =>
    rw [evalBindings, evalBindings]
    exact after [] rfl
  | @cons binding binding' bindings bindings' head tail ih =>
    rw [evalBindings, evalBindings, ← head.1]
    apply C.unlessRaised head.2
    intro value ordinary
    apply ih
    intro values same
    exact after (value :: values) (by simpa using same)

/-- Several bindings of corresponding values in corresponding bodies correspond. -/
theorem letAll {bindings bindings' : List (Binding (Expr β))} {body body' : Expr β}
    (takes : C.Takes whole (.letAll bindings body) depth (.letAll bindings' body') depth')
    (related : List.Forall₂ (C.OnBinding env (depth + 1) env' (depth' + 1)) bindings bindings')
    (inside : ∀ values : List (Value β), values.length = bindings.length →
      C.OnTask body (env.bindAll ((bindings.map (·.name)).zip values)) (depth + 1)
        body' (env'.bindAll ((bindings.map (·.name)).zip values)) (depth' + 1)) :
    whole (first.evalAt (.letAll bindings body) env depth)
      (second.evalAt (.letAll bindings' body') env' depth') :=
  takes (C.bindings related env env' inside)

/-- Whether two clauses have the same pattern and bodies that are both absent or correspond under
each match. -/
structure OnClause (env : Env β) (depth : Nat) (env' : Env β) (depth' : Nat)
    (clause clause' : Clause β (Expr β)) : Prop where
  /-- The patterns agree. -/
  pattern : clause.pattern = clause'.pattern
  /-- The bodies are both absent or both there. -/
  absent : clause.body.isAbsent = clause'.body.isAbsent
  /-- The bodies that are there correspond in the scopes of each match. -/
  body : clause.body.isAbsent = false → ∀ subject found,
    clause.pattern.unify subject = some found →
      C.OnTask clause.body (env.extend found) depth clause'.body (env'.extend found) depth'

/-- Clauses that correspond one by one treat the same subject correspondingly. -/
theorem clauses {clauses clauses' : List (Clause β (Expr β))}
    (related : List.Forall₂ (C.OnClause env depth env' depth') clauses clauses')
    (subject : Value β) :
    C.onRun (first.evalClauses clauses subject env depth)
      (second.evalClauses clauses' subject env' depth') := by
  induction related with
  | nil =>
    rw [evalClauses, evalClauses]
    split <;> exact C.give _
  | @cons clause clause' clauses clauses' head tail ih =>
    rw [evalClauses_cons, evalClauses_cons, ← head.pattern, ← head.absent]
    split
    · exact ih
    · cases matched : clause.pattern.unify subject with
      | none => exact ih
      | some found =>
        cases there : clause.body.isAbsent with
        | true => exact C.give _
        | false => exact head.body there subject found matched

/-- Cases of corresponding subjects with corresponding clauses correspond. -/
theorem case {subject subject' : Expr β} {clauses clauses' : List (Clause β (Expr β))}
    (takes : C.Takes whole (.case subject clauses) depth (.case subject' clauses') depth')
    (asking : ∀ clause ∈ clauses, clause.pattern.asksForException = true → C.catching)
    (inspected : C.OnTask subject env (depth + 1) subject' env' (depth' + 1))
    (related : List.Forall₂ (C.OnClause env (depth + 1) env' (depth' + 1)) clauses clauses') :
    whole (first.evalAt (.case subject clauses) env depth)
      (second.evalAt (.case subject' clauses') env' depth') := by
  refine takes (C.andThen inspected (fun subject => C.clauses related subject) ?_)
  by_cases asked : ∃ clause ∈ clauses, clause.pattern.asksForException = true
  · obtain ⟨clause, inside, asks⟩ := asked
    exact .inr (asking clause inside asks)
  · exact .inl fun raised =>
      evalClauses_raised _ (fun clause inside asks => asked ⟨clause, inside, asks⟩) ..

/-- Whether two catches bind the same name in corresponding tests and handlers. -/
structure OnCatch (env : Env β) (depth : Nat) (env' : Env β) (depth' : Nat)
    (clause clause' : Catch (Expr β)) : Prop where
  /-- The names agree. -/
  name : clause.name = clause'.name
  /-- The tests correspond, whatever was raised. -/
  test : ∀ raised, C.OnTask clause.test (env.bind clause.name raised) depth clause'.test
    (env'.bind clause.name raised) depth'
  /-- The handlers correspond, whatever was raised. -/
  handler : ∀ raised, C.OnTask clause.handler (env.bind clause.name raised) depth clause'.handler
    (env'.bind clause.name raised) depth'

/-- Catches that correspond one by one treat what was raised correspondingly. -/
theorem catches {catches catches' : List (Catch (Expr β))}
    (related : List.Forall₂ (C.OnCatch env depth env' depth') catches catches')
    (raised : Value β) :
    C.onRun (first.evalCatches catches raised env depth)
      (second.evalCatches catches' raised env' depth') := by
  induction related with
  | nil =>
    rw [evalCatches, evalCatches]
    exact C.give _
  | @cons clause clause' catches catches' head tail ih =>
    rw [evalCatches, evalCatches, ← head.name]
    apply C.unlessRaised (head.test raised)
    intro verdict ordinary
    match verdict with
    | .bool true => exact head.handler raised
    | .bool false | .int _ | .char _ | .string _ | .symbol _ | .box _ | .data .. | .list _
    | .exception _ => exact ih

/-- Attempts of corresponding bodies with corresponding catches correspond. -/
theorem attempt {body body' : Expr β} {catches catches' : List (Catch (Expr β))}
    (takes : C.Takes whole (.attempt body catches) depth (.attempt body' catches') depth')
    (catching : C.catching)
    (tried : C.OnTask body env (depth + 1) body' env' (depth' + 1))
    (related : List.Forall₂ (C.OnCatch env (depth + 1) env' (depth' + 1)) catches catches') :
    whole (first.evalAt (.attempt body catches) env depth)
      (second.evalAt (.attempt body' catches') env' depth') := by
  refine takes (C.andThen tried (fun value => ?_) (.inr catching))
  cases value with
  | exception raised => exact C.catches related raised
  | _ => exact C.give _

/-- Whether two chains of steps correspond: their values do, and whatever item a context feeds on,
so do the steps that are left, one level deeper and in the scopes that the first ones leave. -/
inductive OnSteps : List (Step (Expr β)) → Env β → Nat → List (Step (Expr β)) → Env β → Nat →
    Prop where
  /-- No steps. -/
  | nil (env : Env β) (depth : Nat) (env' : Env β) (depth' : Nat) :
    OnSteps [] env depth [] env' depth'
  /-- A first step and those after it. -/
  | cons {step step' : Step (Expr β)} {others others' : List (Step (Expr β))} {env env' : Env β}
    {depth depth' : Nat} (name : step.name = step'.name)
    (head : C.OnTask step.value env depth step'.value env' depth')
    (tail : ∀ item, OnSteps others (if step.name = "" then env else env.bind step.name item)
      (depth + 1) others' (if step.name = "" then env' else env'.bind step.name item)
      (depth' + 1)) : OnSteps (step :: others) env depth (step' :: others') env' depth'

/-- Corresponding chains of steps evaluate correspondingly through corresponding contexts. -/
theorem steps {steps steps' : List (Step (Expr β))}
    (related : C.OnSteps steps env depth steps' env' depth') {context context' : Context β}
    (same : C.OnContext context context') :
    C.onRun (first.evalSteps context steps env depth)
      (second.evalSteps context' steps' env' depth') := by
  induction related with
  | nil =>
    rw [evalSteps, evalSteps, same.1]
    exact C.give _
  | @cons step step' others others' env env' depth depth' name head tail ih =>
    have next := tail default
    generalize (if step.name = "" then env else env.bind step.name default) = scope,
      (if step.name = "" then env' else env'.bind step.name default) = scope' at next
    cases next with
    | nil =>
      rw [evalSteps, evalSteps]
      exact head
    | cons =>
      rw [evalSteps, evalSteps, ← name]
      exact C.unlessRaised head fun value _ => same.2 value ih

/-- Blocks of corresponding steps correspond. -/
theorem block {tag : String} {steps steps' : List (Step (Expr β))}
    (takes : C.Takes whole (.block tag steps) depth (.block tag steps') depth')
    (related : C.OnSteps steps env (depth + 1) steps' env' (depth' + 1)) :
    whole (first.evalAt (.block tag steps) env depth)
      (second.evalAt (.block tag steps') env' depth') :=
  takes (C.contextFor tag fun _ _ same => C.steps related same)

/-! ## The whole language -/

/-- In environments that agree steps correspond to themselves when their values do, each at its
level. -/
theorem OnSteps.of_agrees_placed {C : Correspondence first second} {steps : List (Step (Expr β))}
    {start depth depth' : Nat}
    (each : ∀ placed ∈ steps.zipIdx start, ∀ {env env' : Env β}, env.Agrees env' →
      C.OnTask placed.1.value env (depth + placed.2) placed.1.value env' (depth' + placed.2))
    {env env' : Env β} (agrees : env.Agrees env') :
    C.OnSteps steps env (depth + start) steps env' (depth' + start) := by
  induction steps generalizing start env env' with
  | nil => exact .nil ..
  | cons step others ih =>
    rw [List.zipIdx_cons, List.forall_mem_cons] at each
    refine .cons rfl (each.1 agrees) fun item => ?_
    split
    · exact ih each.2 agrees
    · exact ih each.2 (agrees.push [(step.name, item)])

/-- In environments that agree steps correspond to themselves when their values do. -/
theorem OnSteps.of_agrees {C : Correspondence first second} {steps : List (Step (Expr β))}
    (each : ∀ step ∈ steps, ∀ {env env' : Env β}, env.Agrees env' → ∀ depth,
      C.OnTask step.value env depth step.value env' depth)
    {env env' : Env β} (agrees : env.Agrees env') (depth : Nat) :
    C.OnSteps steps env depth steps env' depth := by
  change C.OnSteps steps env (depth + 0) steps env' (depth + 0)
  exact of_agrees_placed (fun placed member env env' agrees =>
    each placed.1 (List.fst_mem_of_mem_zipIdx member) agrees _) agrees

/-- Taking up an expression beside itself, in environments that agree, makes related runs when its
parts correspond to themselves at their levels. -/
theorem of_placed {expression : Expr β}
    (takes : C.Takes whole expression depth expression depth')
    (asking : ∀ {subject clauses}, expression = .case subject clauses → ∀ clause ∈ clauses,
      clause.pattern.asksForException = true → C.catching)
    (attempting : ∀ {body catches}, expression = .attempt body catches → C.catching)
    (placed : ∀ placed ∈ expression.placedParts, ∀ {env env' : Env β}, env.Agrees env' →
      C.OnTask placed.1 env (depth + 1 + placed.2) placed.1 env' (depth' + 1 + placed.2))
    (agrees : env.Agrees env') :
    whole (first.evalAt expression env depth) (second.evalAt expression env' depth') := by
  -- Apart from the steps of a block all parts are one level down.
  have below (level : expression.placedParts = expression.parts.map fun part => (part, 0)) :
      ∀ part ∈ expression.parts, ∀ {env env' : Env β}, env.Agrees env' →
        C.OnTask part env (depth + 1) part env' (depth' + 1) := by
    rw [level, List.forall_mem_map] at placed
    exact placed
  cases expression with
  | absent => exact C.absent takes
  | lit value => exact C.lit takes
  | var name => exact C.var takes (agrees name)
  | call name args =>
    exact C.call takes (List.forall₂_same.mpr fun arg inside => below rfl arg inside agrees)
  | construct name ownTag args =>
    exact C.construct takes (List.forall₂_same.mpr fun arg inside => below rfl arg inside agrees)
  | ifThenElse condition yes no =>
    exact C.ifThenElse takes (below rfl _ (by simp [Expr.parts]) agrees)
      (below rfl _ (by simp [Expr.parts]) agrees) (below rfl _ (by simp [Expr.parts]) agrees)
  | letIn name bound body =>
    exact C.letIn takes (below rfl _ (by simp [Expr.parts]) agrees)
      fun value => below rfl _ (by simp [Expr.parts]) (agrees.push [(name, value)])
  | letAll bindings body =>
    refine C.letAll takes (List.forall₂_same.mpr fun binding inside =>
      ⟨rfl, below rfl _ (Expr.value_mem_parts inside) agrees⟩) ?_
    intro values same
    rw [Env.bindAll_eq_push, Env.bindAll_eq_push]
    exact below rfl _ (by simp [Expr.parts]) (agrees.push _)
  | case subject clauses =>
    refine C.case takes (asking rfl) (below rfl _ (by simp [Expr.parts]) agrees)
      (List.forall₂_same.mpr fun clause inside => ⟨rfl, rfl, ?_⟩)
    intro there subject found matched
    rw [Env.extend_eq_push, Env.extend_eq_push]
    exact below rfl _ (Expr.body_mem_parts inside there) (agrees.push _)
  | raise raised => exact C.raise takes (below rfl _ (by simp [Expr.parts]) agrees)
  | attempt body catches =>
    exact C.attempt takes (attempting rfl) (below rfl _ (by simp [Expr.parts]) agrees)
      (List.forall₂_same.mpr fun clause inside => ⟨rfl,
        fun raised =>
          below rfl _ (Expr.test_mem_parts inside) (agrees.push [(clause.name, raised)]),
        fun raised =>
          below rfl _ (Expr.handler_mem_parts inside) (agrees.push [(clause.name, raised)])⟩)
  | lift context lifted => exact C.lift takes (below rfl _ (by simp [Expr.parts]) agrees)
  | bind context fed name body =>
    refine C.bind takes (below rfl _ (by simp [Expr.parts]) agrees) fun item => ?_
    split
    · exact below rfl _ (by simp [Expr.parts]) agrees
    · exact below rfl _ (by simp [Expr.parts]) (agrees.push [(name, item)])
  | block context steps =>
    rw [Expr.placedParts, List.zipIdx_map, List.forall_mem_map] at placed
    exact C.block takes (.of_agrees_placed placed agrees)

/-- In environments that agree an expression corresponds to itself, at two depths where it is
admitted and so are its parts at theirs. -/
theorem of_agrees_between (admitted : Expr β → Nat → Nat → Prop)
    (nodes : ∀ {expression depth depth'}, admitted expression depth depth' →
      C.onNode expression depth expression depth')
    (inward : ∀ {expression depth depth'}, admitted expression depth depth' →
      ∀ placed ∈ expression.placedParts,
        admitted placed.1 (depth + 1 + placed.2) (depth' + 1 + placed.2))
    {env env' : Env β} (agrees : env.Agrees env') {expression : Expr β} {depth depth' : Nat}
    (here : admitted expression depth depth') :
    C.OnTask expression env depth expression env' depth' := by
  induction expression using Expr.induction_parts generalizing env env' depth depth' with
  | step expression ih =>
  have node := nodes here
  refine C.of_placed (C.takeUp node) ?_ ?_ ?_ agrees
  · rintro subject clauses rfl clause inside asks
    exact C.asking node inside asks
  · rintro body catches rfl
    exact C.attempting node
  · exact fun placed member env env' agrees =>
      ih placed.1 (Expr.mem_parts_of_mem_placedParts member) agrees (inward here placed member)

/-- In environments that agree an expression corresponds to itself, at a depth where it is admitted
and so are its parts at theirs. -/
theorem of_agrees_where (admitted : Expr β → Nat → Prop)
    (nodes : ∀ {expression depth}, admitted expression depth →
      C.onNode expression depth expression depth)
    (inward : ∀ {expression depth}, admitted expression depth →
      ∀ placed ∈ expression.placedParts, admitted placed.1 (depth + 1 + placed.2))
    {env env' : Env β} (agrees : env.Agrees env') {expression : Expr β} {depth : Nat}
    (here : admitted expression depth) : C.OnTask expression env depth expression env' depth := by
  refine C.of_agrees_between (fun expression depth depth' => depth = depth' ∧
    admitted expression depth) ?_ ?_ agrees ⟨rfl, here⟩
  · rintro expression depth _ ⟨rfl, here⟩
    exact nodes here
  · rintro expression depth _ ⟨rfl, here⟩ placed member
    exact ⟨rfl, inward here placed member⟩

/-- In environments that agree an expression corresponds to itself. -/
theorem of_agrees (nodes : ∀ expression depth, C.onNode expression depth expression depth)
    {env env' : Env β} (agrees : env.Agrees env') (expression : Expr β) (depth : Nat) :
    C.OnTask expression env depth expression env' depth :=
  C.of_agrees_where (fun _ _ => True) (fun _ => nodes _ _) (fun _ _ _ => trivial) agrees trivial

/-- Equal runs of evaluators with the same functions and contexts, side by side at expressions that
the two take up alike. -/
def equal (functions : first.functions = second.functions)
    (contexts : first.contexts = second.contexts) (onNode : Expr β → Nat → Expr β → Nat → Prop)
    (takeUp : ∀ {expression depth expression' depth'},
      onNode expression depth expression' depth' →
        ∀ run, first.takeUp expression depth run = second.takeUp expression' depth' run) :
    Correspondence first second where
  onRun run run' := run = run'
  onNode := onNode
  catching := True
  asking _ _ _ := trivial
  attempting _ := trivial
  give _ := rfl
  stop _ := rfl
  andThen := by
    rintro run _ next next' rfl after -
    rw [funext after]
  functions name := by
    rw [function?, function?, functions]
    exact rel_self fun _ _ _ => rfl
  contexts tag := by
    rw [context?, context?, contexts]
    refine rel_self fun context _ => ⟨fun value => rfl, ?_⟩
    intro value next next' same
    rw [funext same]
  takeUp := by
    rintro expression depth expression' depth' run _ node rfl
    exact takeUp node run

end Correspondence

end GrammarKit
