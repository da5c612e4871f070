import GrammarKit.Host
import GrammarKit.Proofs.Oblivious
/-!
# Bindings and substitution

Binding a name to a value and writing the value in place of the name come to the same: an expression
evaluated with one more binding has the outcome of the expression after substitution, evaluated
without it. Substitution stops where the name is bound again, so what is left to show there is that
evaluation knows environments by their lookups only (`Correspondence.of_agrees`).

Both hold of every correspondence between an evaluator and itself, and two of those are put to use.
Without a trace whole runs are equal (`Correspondence.equalRuns`), whatever functions and contexts
do. With a trace the ledgers differ, as the texts of the expressions do, and outcomes are the same
when no function and no context takes notice of the ledger (`Correspondence.sameOutcomes`), which
holds of all that sessions can build.
-/

namespace GrammarKit

variable {β : Type}

namespace Expr

mutual

/-- Writes a value in place of a name, but not where the name is bound again. -/
def subst (name : String) (value : Value β) : Expr β → Expr β
  | .absent => .absent
  | .lit literal => .lit literal
  | .var other => if other = name then .lit value else .var other
  | .call function args => .call function (substAll name value args)
  | .construct made ownTag args => .construct made ownTag (substAll name value args)
  | .ifThenElse condition yes no =>
    .ifThenElse (subst name value condition) (subst name value yes) (subst name value no)
  | .letIn other bound body =>
    .letIn other (subst name value bound) (if other = name then body else subst name value body)
  | .letAll bindings body =>
    .letAll (substBindings name value bindings)
      (if name ∈ bindings.map (·.name) then body else subst name value body)
  | .case subject clauses => .case (subst name value subject) (substClauses name value clauses)
  | .raise raised => .raise (subst name value raised)
  | .attempt body catches => .attempt (subst name value body) (substCatches name value catches)
  | .lift context lifted => .lift context (subst name value lifted)
  | .bind context fed other body =>
    .bind context (subst name value fed) other
      (if other = name ∧ other ≠ "" then body else subst name value body)
  | .block context steps => .block context (substSteps name value steps)

/-- `subst` for a list of expressions. -/
def substAll (name : String) (value : Value β) : List (Expr β) → List (Expr β)
  | [] => []
  | first :: others => subst name value first :: substAll name value others

/-- `subst` for bindings, none of which sees another. -/
def substBindings (name : String) (value : Value β) :
    List (Binding (Expr β)) → List (Binding (Expr β))
  | [] => []
  | ⟨other, bound⟩ :: others => ⟨other, subst name value bound⟩ :: substBindings name value others

/-- `subst` for clauses: a body whose pattern mentions the name stays. -/
def substClauses (name : String) (value : Value β) :
    List (Clause β (Expr β)) → List (Clause β (Expr β))
  | [] => []
  | ⟨pattern, body⟩ :: others =>
    ⟨pattern, if name ∈ pattern.names then body else subst name value body⟩ ::
      substClauses name value others

/-- `subst` for catches: test and handler of a catch of the name stay. -/
def substCatches (name : String) (value : Value β) :
    List (Catch (Expr β)) → List (Catch (Expr β))
  | [] => []
  | ⟨other, test, handler⟩ :: others =>
    (if other = name then ⟨other, test, handler⟩
      else ⟨other, subst name value test, subst name value handler⟩) ::
      substCatches name value others

/-- `subst` for steps: those after one that sets the name stay. -/
def substSteps (name : String) (value : Value β) : List (Step (Expr β)) → List (Step (Expr β))
  | [] => []
  | ⟨other, made⟩ :: others =>
    ⟨other, subst name value made⟩ ::
      if other = name ∧ other ≠ "" then others else substSteps name value others

end

variable (name : String) (value : Value β)

/-- Substitution in expressions one by one. -/
theorem substAll_eq_map (expressions : List (Expr β)) :
    substAll name value expressions = expressions.map (subst name value) := by
  induction expressions with
  | nil => rfl
  | cons first others ih => rw [substAll, ih, List.map_cons]

/-- Substitution in bindings one by one. -/
theorem substBindings_eq_map (bindings : List (Binding (Expr β))) :
    substBindings name value bindings =
      bindings.map fun binding => ⟨binding.name, binding.value.subst name value⟩ := by
  induction bindings with
  | nil => rfl
  | cons first others ih => rw [substBindings, ih, List.map_cons]

/-- Substitution in clauses one by one. -/
theorem substClauses_eq_map (clauses : List (Clause β (Expr β))) :
    substClauses name value clauses = clauses.map fun clause =>
      ⟨clause.pattern, if name ∈ clause.pattern.names then clause.body
        else clause.body.subst name value⟩ := by
  induction clauses with
  | nil => rfl
  | cons first others ih => rw [substClauses, ih, List.map_cons]

/-- Substitution in catches one by one. -/
theorem substCatches_eq_map (catches : List (Catch (Expr β))) :
    substCatches name value catches = catches.map fun clause =>
      if clause.name = name then clause
      else ⟨clause.name, clause.test.subst name value, clause.handler.subst name value⟩ := by
  induction catches with
  | nil => rfl
  | cons first others ih => rw [substCatches, ih, List.map_cons]

variable {name value}

/-- Substitution neither makes nor fills a hole. -/
@[simp] theorem isAbsent_subst (expression : Expr β) :
    (expression.subst name value).isAbsent = expression.isAbsent := by
  cases expression with
  | var other =>
    rw [subst]
    split <;> rfl
  | _ => rw [subst] <;> rfl

/-- Steps have texts after substitution when they have texts before, and each of their values does
so. -/
theorem isSome_textWith?_substSteps (boxed : β → String) {steps : List (Step (Expr β))}
    (each : ∀ step ∈ steps, ((step.value.subst name value).textWith? boxed).isSome =
      (step.value.textWith? boxed).isSome) :
    (∀ made ∈ (substSteps name value steps).map (·.value), (made.textWith? boxed).isSome) ↔
      ∀ made ∈ steps.map (·.value), (made.textWith? boxed).isSome := by
  induction steps with
  | nil => rfl
  | cons step others ih =>
    rw [substSteps, List.map_cons, List.map_cons, List.forall_mem_cons, List.forall_mem_cons,
      each step (.head _)]
    split
    · rfl
    · rw [ih fun step inside => each step (.tail _ inside)]

/-- An expression has a text after substitution exactly when it has one before. -/
theorem isSome_textWith?_subst (boxed : β → String) (expression : Expr β) :
    ((expression.subst name value).textWith? boxed).isSome =
      (expression.textWith? boxed).isSome := by
  induction expression using induction_parts with
  | step expression ih =>
  rw [Bool.eq_iff_iff, isSome_textWith?, isSome_textWith?, isAbsent_subst]
  refine and_congr_right fun _ => ?_
  cases expression with
  | absent | lit | ifThenElse | letIn | raise | lift | bind => rfl
  | var other =>
    rw [subst]
    split <;> rfl
  | call function args | construct made ownTag args =>
    simp only [subst, spelled, substAll_eq_map, List.forall_mem_map]
    exact forall₂_congr fun arg inside => by rw [ih arg inside]
  | letAll bindings body =>
    simp only [subst, spelled, substBindings_eq_map, List.forall_mem_map]
    exact forall₂_congr fun binding inside => by rw [ih _ (value_mem_parts inside)]
  | case subject clauses =>
    simp only [subst, spelled, substClauses_eq_map, List.forall_mem_cons, List.mem_filter, and_imp,
      List.forall_mem_map]
    rw [ih subject (.head _)]
    refine and_congr_right fun _ => forall₂_congr fun clause inside => ?_
    split
    · rfl
    · rw [isAbsent_subst]
      refine forall_congr' fun there => ?_
      rw [ih _ (body_mem_parts inside (by simpa using there))]
  | attempt body catches =>
    simp only [subst, spelled, List.forall_mem_singleton]
    rw [ih body (.head _)]
  | block context steps =>
    exact isSome_textWith?_substSteps boxed fun step inside => ih _ (step_mem_parts inside)

end Expr

namespace Correspondence

open Evaluator

variable [Payload β] {first second : Evaluator β} (C : Correspondence first second)

variable {name : String} {value : Value β}

/-- With a name bound to a value steps correspond to what substitution makes of them, when their
values do. -/
theorem OnSteps.of_subst {C : Correspondence first second}
    (nodes : ∀ expression depth, C.onNode expression depth expression depth)
    {steps : List (Step (Expr β))}
    (each : ∀ step ∈ steps, ∀ {env env' : Env β}, env.Agrees (env'.bind name value) → ∀ depth,
      C.OnTask step.value env depth (step.value.subst name value) env' depth)
    {env env' : Env β} (agrees : env.Agrees (env'.bind name value)) (depth : Nat) :
    C.OnSteps steps env depth (Expr.substSteps name value steps) env' depth := by
  induction steps generalizing env env' depth with
  | nil => exact .nil ..
  | cons step others ih =>
    have later := @ih fun step inside => each step (.tail _ inside)
    rw [Expr.substSteps]
    refine .cons rfl (each step (.head _) agrees depth) fun item => ?_
    rcases agrees.bind_unless_empty step.name item with ⟨hides, hidden⟩ | ⟨shows, seen⟩
    · rw [if_pos hides]
      exact .of_agrees (fun step _ env env' agrees => C.of_agrees nodes agrees _) hidden _
    · rw [if_neg shows]
      exact later seen _

/-- With a name bound to a value an expression corresponds to what substitution makes of it, without
the binding. -/
theorem of_subst (nodes : ∀ expression depth, C.onNode expression depth expression depth)
    (nodes' : ∀ expression depth,
      C.onNode expression depth (expression.subst name value) depth)
    {env env' : Env β} (agrees : env.Agrees (env'.bind name value)) (expression : Expr β)
    (depth : Nat) :
    C.OnTask expression env depth (expression.subst name value) env' depth := by
  induction expression using Expr.induction_parts generalizing env env' depth with
  | step expression ih =>
  have node := nodes' expression depth
  cases expression with
  | absent => exact C.absent (C.takeUp node)
  | lit value => exact C.lit (C.takeUp node)
  | var other =>
    rw [Expr.subst] at node ⊢
    by_cases same : other = name
    · rw [if_pos same] at node ⊢
      rw [OnTask, evalAt, evalAt, agrees other, Env.lookup_bind, if_pos same]
      exact C.takeUp node (C.give value)
    · rw [if_neg same] at node ⊢
      exact C.var (C.takeUp node) (by rw [agrees, Env.lookup_bind, if_neg same])
  | call function args =>
    rw [Expr.subst, Expr.substAll_eq_map] at node ⊢
    exact C.call (C.takeUp node) (List.forall₂_map_right_iff.mpr
      (List.forall₂_same.mpr fun arg inside => ih arg inside agrees _))
  | construct made ownTag args =>
    rw [Expr.subst, Expr.substAll_eq_map] at node ⊢
    exact C.construct (C.takeUp node) (List.forall₂_map_right_iff.mpr
      (List.forall₂_same.mpr fun arg inside => ih arg inside agrees _))
  | ifThenElse condition yes no =>
    exact C.ifThenElse (C.takeUp node) (ih _ (by simp [Expr.parts]) agrees _)
      (ih _ (by simp [Expr.parts]) agrees _) (ih _ (by simp [Expr.parts]) agrees _)
  | letIn other bound body =>
    rw [Expr.subst] at node ⊢
    refine C.letIn (C.takeUp node) (ih _ (by simp [Expr.parts]) agrees _) fun newer => ?_
    split
    · next same =>
      exact C.of_agrees nodes (agrees.push_over [(other, newer)] (by simp [same])) _ _
    · next differs =>
      exact ih _ (by simp [Expr.parts])
        (agrees.push_beside [(other, newer)] (by simp [Ne.symm differs])) _
  | letAll bindings body =>
    rw [Expr.subst, Expr.substBindings_eq_map] at node ⊢
    refine C.letAll (C.takeUp node) (List.forall₂_map_right_iff.mpr (List.forall₂_same.mpr
      fun binding inside => ⟨rfl, ih _ (Expr.value_mem_parts inside) agrees _⟩)) ?_
    intro values same
    have bound := Env.isSome_lookup_zip (bindings.map (·.name)) (by simpa using same) name
    rw [Env.bindAll_eq_push, Env.bindAll_eq_push]
    split
    · next mentioned =>
      exact C.of_agrees nodes (agrees.push_over _ (bound.mpr mentioned)) _ _
    · next unmentioned =>
      have free := Option.not_isSome_iff_eq_none.mp (mt bound.mp unmentioned)
      exact ih _ (by simp [Expr.parts]) (agrees.push_beside _ free) _
  | case subject clauses =>
    rw [Expr.subst, Expr.substClauses_eq_map] at node ⊢
    refine C.case (C.takeUp node) (fun _ => C.asking node) (ih _ (by simp [Expr.parts]) agrees _)
      (List.forall₂_map_right_iff.mpr
        (List.forall₂_same.mpr fun clause inside => ⟨rfl, ?_, ?_⟩))
    · dsimp only
      split
      · rfl
      · rw [Expr.isAbsent_subst]
    · intro there subject found matched
      have mentions := Pattern.isSome_lookup_of_unify matched name
      rw [← Env.lookup_visible] at mentions
      rw [Env.extend_eq_push, Env.extend_eq_push]
      dsimp only
      split
      · next mentioned =>
        exact C.of_agrees nodes (agrees.push_over _ (mentions.mpr mentioned)) _ _
      · next unmentioned =>
        have free := Option.not_isSome_iff_eq_none.mp (mt mentions.mp unmentioned)
        exact ih _ (Expr.body_mem_parts inside there) (agrees.push_beside _ free) _
  | raise raised => exact C.raise (C.takeUp node) (ih _ (by simp [Expr.parts]) agrees _)
  | attempt body catches =>
    rw [Expr.subst, Expr.substCatches_eq_map] at node ⊢
    refine C.attempt (C.takeUp node) (C.attempting node) (ih _ (by simp [Expr.parts]) agrees _)
      (List.forall₂_map_right_iff.mpr (List.forall₂_same.mpr fun clause inside => ?_))
    split
    · next same =>
      have hidden (raised : Value β) :=
        agrees.push_over [(clause.name, raised)] (by simp [same])
      exact ⟨rfl, fun raised => C.of_agrees nodes (hidden raised) _ _,
        fun raised => C.of_agrees nodes (hidden raised) _ _⟩
    · next differs =>
      have seen (raised : Value β) :=
        agrees.push_beside [(clause.name, raised)] (by simp [Ne.symm differs])
      exact ⟨rfl, fun raised => ih _ (Expr.test_mem_parts inside) (seen raised) _,
        fun raised => ih _ (Expr.handler_mem_parts inside) (seen raised) _⟩
  | lift context lifted => exact C.lift (C.takeUp node) (ih _ (by simp [Expr.parts]) agrees _)
  | bind context fed other body =>
    rw [Expr.subst] at node ⊢
    refine C.bind (C.takeUp node) (ih _ (by simp [Expr.parts]) agrees _) fun item => ?_
    rcases agrees.bind_unless_empty other item with ⟨hides, hidden⟩ | ⟨shows, seen⟩
    · rw [if_pos hides]
      exact C.of_agrees nodes hidden _ _
    · rw [if_neg shows]
      exact ih _ (by simp [Expr.parts]) seen _
  | block context steps =>
    exact C.block (C.takeUp node)
      (.of_subst nodes (fun step inside => ih _ (Expr.step_mem_parts inside)) agrees _)

end Correspondence

namespace Evaluator

variable [Payload β] {evaluator : Evaluator β}

/-- Without a trace evaluating with a name bound to a value is evaluating after substitution. -/
theorem evalAt_bind_of_untraced (untraced : evaluator.trace = false) (body : Expr β) (env : Env β)
    (name : String) (value : Value β) (depth : Nat) :
    evaluator.evalAt body (env.bind name value) depth =
      evaluator.evalAt (body.subst name value) env depth :=
  (Correspondence.equalRuns evaluator untraced).of_subst (fun _ _ => rfl) (fun _ _ => rfl) (.refl _)
    body depth

/-- Evaluating with a name bound to a value has the outcome of evaluating after substitution. -/
theorem evalAt_bind_of_oblivious (oblivious : evaluator.Oblivious) (body : Expr β) (env : Env β)
    (name : String) (value : Value β) (depth : Nat) :
    (evaluator.evalAt body (env.bind name value) depth).SameOutcome
      (evaluator.evalAt (body.subst name value) env depth) :=
  (Correspondence.sameOutcomes evaluator oblivious).of_subst (fun _ _ => ⟨rfl, rfl⟩)
    (fun expression _ => ⟨rfl, (Expr.isSome_textWith?_subst _ expression).symm⟩) (.refl _) body
    depth

/-- Without a trace a let whose value is no exception is its body after substitution. -/
theorem run_letIn_of_untraced (untraced : evaluator.trace = false) {bound : Expr β} {env : Env β}
    {depth : Nat} {ledger after : Ledger} {value : Value β}
    (given : (evaluator.evalAt bound env (depth + 1)).run.run ledger = (.ok value, after))
    (ordinary : value.isException = false) (name : String) (body : Expr β) :
    (evaluator.evalAt (.letIn name bound body) env depth).run.run ledger =
      (evaluator.evalAt (body.subst name value) env (depth + 1)).run.run after := by
  have within := mt Beyond.deeper (not_beyond_of_ok given ordinary)
  rw [evalAt, takeUp_untraced within untraced, Run.run_unlessRaised, given]
  simp only [ordinary, Bool.false_eq_true, ↓reduceIte]
  rw [evalAt_bind_of_untraced untraced]

/-- A let whose value is no exception has the outcome of its body after substitution. -/
theorem sameOutcome_letIn (oblivious : evaluator.Oblivious) {bound : Expr β} {env : Env β}
    {depth : Nat} {ledger after : Ledger} {value : Value β}
    (given : (evaluator.evalAt bound env (depth + 1)).run.run ledger = (.ok value, after))
    (ordinary : value.isException = false) (name : String) (body : Expr β) :
    (evaluator.evalAt (.letIn name bound body) env depth).SameOutcome
      (evaluator.evalAt (body.subst name value) env (depth + 1)) := by
  have within := mt Beyond.deeper (not_beyond_of_ok given ordinary)
  have gives : (evaluator.evalAt bound env (depth + 1)).SameOutcome (pure value) := by
    intro before before'
    rw [oblivious.sameOutcome_evalAt bound env (depth + 1) before ledger, Run.outcome, given]
    rfl
  rw [evalAt]
  apply sameOutcome_takeUp within rfl
  have followed := (Correspondence.sameOutcomes evaluator oblivious).unlessRaised gives
    fun value _ => evalAt_bind_of_oblivious oblivious body env name value (depth + 1)
  have opened : (pure value : Run (Value β)).unlessRaised
      (fun value => evaluator.evalAt (body.subst name value) env (depth + 1)) =
        evaluator.evalAt (body.subst name value) env (depth + 1) := by
    cases value with
    | exception raised => exact absurd ordinary Bool.noConfusion
    | _ => rfl
  rwa [opened] at followed

/-- Binding a name is substituting its value: an expression evaluated with the name bound to the
value has the outcome, value or fault, of the expression after substitution, evaluated without the
binding. So a let whose bound expression gives a value that is no exception has the outcome of its
body after substitution, one level deeper. With a trace this takes an evaluator that does not look
at what it has traced. -/
theorem outcome_evalAt_bind (oblivious : evaluator.trace = true → evaluator.Oblivious)
    (body : Expr β) (env : Env β) (name : String) (value : Value β) (depth : Nat)
    (ledger : Ledger) :
    (evaluator.evalAt body (env.bind name value) depth).outcome ledger =
        (evaluator.evalAt (body.subst name value) env depth).outcome ledger ∧
      ∀ bound after, (evaluator.evalAt bound env (depth + 1)).run.run ledger = (.ok value, after) →
        value.isException = false →
          (evaluator.evalAt (.letIn name bound body) env depth).outcome ledger =
            (evaluator.evalAt (body.subst name value) env (depth + 1)).outcome after := by
  cases traced : evaluator.trace with
  | false =>
    refine ⟨by rw [evalAt_bind_of_untraced traced], ?_⟩
    intro bound after given ordinary
    rw [Run.outcome, run_letIn_of_untraced traced given ordinary, Run.outcome]
  | true =>
    refine ⟨evalAt_bind_of_oblivious (oblivious traced) body env name value depth ledger ledger, ?_⟩
    intro bound after given ordinary
    exact sameOutcome_letIn (oblivious traced) given ordinary name body ledger after

/-- The evaluator of a traced session with a function of its own and a context that counts. -/
def counting : Evaluator Host :=
  ((new 50 true).defineRecursive "double" ["x"] (.call "plus" [.var "x", .var "x"])).register
    "seen" (ContextMode.count.context "seen")

/-- Steps that read a name, set it anew and read it again. -/
def rebinding : Expr Host :=
  .block "seen" [⟨"y", .var "x"⟩, ⟨"x", .call "double" [.var "x"]⟩,
    ⟨"", .construct "pair" "" [.var "x", .var "y"]⟩]

/-- A name that a block sets anew is substituted in the steps before only. -/
theorem outcome_evalAt_bind_rebinding :
    (counting.trace = true → counting.Oblivious) ∧
      rebinding.subst "x" (.int 3) =
        .block "seen" [⟨"y", .lit (.int 3)⟩, ⟨"x", .call "double" [.lit (.int 3)]⟩,
          ⟨"", .construct "pair" "" [.var "x", .var "y"]⟩] ∧
      (counting.evalAt rebinding (Env.empty.bind "x" (.int 3)) 0).outcome {} =
        (counting.evalAt (rebinding.subst "x" (.int 3)) .empty 0).outcome {} ∧
      (counting.evalAt (.letIn "x" (.lit (.int 3)) rebinding) .empty 0).outcome {} =
        (counting.evalAt (rebinding.subst "x" (.int 3)) .empty 1).outcome
          { records := #[.evaluate "3" 1] } ∧
      (counting.evalAt (rebinding.subst "x" (.int 3)) .empty 1).outcome {} =
        .ok (.data "pair" "" [.int 6, .int 3]) := by
  have oblivious : counting.Oblivious :=
    ((oblivious_new 50 true).defineRecursive "double" ["x"] _).register "seen"
      (ContextMode.oblivious_context .count "seen")
  have binding := outcome_evalAt_bind (fun _ => oblivious) rebinding .empty "x" (.int 3) 0 {}
  exact ⟨fun _ => oblivious, rfl, binding.1, binding.2 (.lit (.int 3)) _ rfl rfl, rfl⟩

end Evaluator

end GrammarKit
