import GrammarKit.Host
import GrammarKit.Proofs.Meaning
import Mathlib.Data.List.Perm.Basic
import Mathlib.Data.Prod.Basic
/-!
# Bindings at the same time

A form that binds several names binds them at the same time. What is bound is evaluated around the
form and sees none of the names, and the body sees all of them (`Evaluator.means_letAll`). Two
things about the order of the bindings are then to be told apart. The names are bound in an order,
which makes no difference when they are different (`Env.Agrees.bindAll_of_perm`). The evaluations
are made in an order too, in which the first that does not come to a value ends the form
(`Evaluator.outcome_letAll`).
-/

namespace GrammarKit

variable {β : Type}

/-! ## Evaluating what is bound -/

namespace Run

/-- A run that does not come to a value does not go on. -/
theorem unlessRaised_of_stop {run : Run (Value β)} {stop : Stop β} (stops : run.Means (.error stop))
    (next : Value β → Run (Value β)) : run.unlessRaised next = run := by
  refine funext fun ledger => ?_
  have ended := Meaning.eq_outcome_of_ofOutcome (stops ledger)
  unfold outcome at ended
  change (run.unlessRaised next).run.run ledger = run.run.run ledger
  rw [run_unlessRaised]
  generalize run.run.run ledger = left at ended ⊢
  obtain ⟨result, after⟩ := left
  obtain rfl : result = stop.outcome := ended
  cases stop <;> rfl

end Run

namespace Evaluator

variable [Payload β] {evaluator : Evaluator β}

/-- What an expression means at a depth of nesting, where there may be a limit. -/
def meaningAt (evaluator : Evaluator β) (expression : Expr β) (env : Env β) (depth : Nat) :
    Meaning β (Value β) :=
  .ofOutcome ((evaluator.evalAt expression env depth).outcome {})

/-- What the bound expressions of several bindings mean, all in the same environment. -/
def bound (evaluator : Evaluator β) (bindings : List (Binding (Expr β))) (env : Env β)
    (depth : Nat) : List (Meaning β (Value β)) :=
  bindings.map fun binding => evaluator.meaningAt binding.value env depth

/-- Past the limit every expression means that the limit is exceeded. -/
theorem meaningAt_beyond {depth : Nat} (beyond : evaluator.Beyond depth) (expression : Expr β)
    (env : Env β) :
    evaluator.meaningAt expression env depth = .give (limitExceeded evaluator.maxDepth) := by
  rw [meaningAt, evalAt_beyond beyond]
  rfl

/-- A traced evaluation that comes to a value is that of an expression with a text. -/
theorem isSome_text?_of_means {expression : Expr β} {env : Env β} {depth : Nat} {value : Value β}
    (traced : evaluator.trace = true)
    (means : evaluator.meaningAt expression env depth = .ok value) : expression.text?.isSome := by
  obtain ⟨given, ordinary⟩ := Meaning.eq_ok_of_ofOutcome means
  have within : ¬ evaluator.Beyond depth := not_beyond_of_ok (Prod.ext given rfl) ordinary
  by_contra textless
  rw [Option.not_isSome_iff_eq_none] at textless
  rw [evalAt_untraceable within traced textless] at given
  cases given

/-- Several bindings have a text together when what they bind has one. -/
theorem isSome_text?_letAll (bindings : List (Binding (Expr β))) (body : Expr β) :
    (Expr.letAll bindings body).text?.isSome ↔
      ∀ binding ∈ bindings, binding.value.text?.isSome := by
  rw [Expr.text?, Expr.isSome_textWith?, Expr.spelled, List.forall_mem_map]
  exact and_iff_right rfl

/-- Different names take their values with them when their bindings are put in another order. -/
theorem zip_perm_of_bound {bindings bindings' : List (Binding (Expr β))}
    (perm : bindings.Perm bindings') {env : Env β} {depth : Nat} {values values' : List (Value β)}
    (all : evaluator.bound bindings env depth = values.map Except.ok)
    (all' : evaluator.bound bindings' env depth = values'.map Except.ok) :
    ((bindings.map (·.name)).zip values).Perm ((bindings'.map (·.name)).zip values') := by
  have meant {bindings : List (Binding (Expr β))} {values : List (Value β)}
      (all : evaluator.bound bindings env depth = values.map Except.ok) :
      ((bindings.map (·.name)).zip values).map (Prod.map id Except.ok) =
        bindings.map fun binding =>
          (binding.name, evaluator.meaningAt binding.value env depth) := by
    rw [← List.zip_map_right, ← all, bound, List.zip_map']
  have injective : Function.Injective
      (Prod.map id Except.ok : String × Value β → String × Meaning β (Value β)) :=
    Function.injective_id.prodMap fun _ _ => Except.ok.inj
  rw [← List.map_perm_map_iff injective, meant all, meant all']
  exact perm.map _

section Oblivious

variable (oblivious : evaluator.Oblivious)

include oblivious

/-- An expression comes to the same from every ledger. -/
theorem means_meaningAt (expression : Expr β) (env : Env β) (depth : Nat) :
    (evaluator.evalAt expression env depth).Means (evaluator.meaningAt expression env depth) :=
  fun ledger =>
    congrArg Meaning.ofOutcome (oblivious.sameOutcome_evalAt expression env depth ledger {})

/-- Evaluating bindings takes what they come to in order, and goes on in the scope that has it. -/
theorem means_evalBindings (bindings : List (Binding (Expr β))) (env scope : Env β) (depth : Nat)
    {next : Env β → Run (Value β)} {next' : List (Value β) → Meaning β (Value β)}
    (after : ∀ values : List (Value β),
      (next (scope.bindAll ((bindings.map (·.name)).zip values))).Means (next' values)) :
    (evaluator.evalBindings bindings env scope depth next).Means
      ((evaluator.bound bindings env depth).mapM id >>= next') := by
  induction bindings generalizing scope next' with
  | nil =>
    rw [evalBindings]
    exact after []
  | cons binding others ih =>
    rw [evalBindings, bound, List.map_cons, List.mapM_cons, bind_assoc]
    refine (means_meaningAt oblivious binding.value env depth).unlessRaised fun value _ => ?_
    rw [bind_assoc]
    simp only [pure_bind]
    exact ih (scope.bind binding.name value) fun values => after (value :: values)

/-- Bindings after one that comes to no value are not evaluated, and nor is what follows them. -/
theorem evalBindings_cut {bindings : List (Binding (Expr β))} {env scope : Env β} {depth : Nat}
    {values : List (Value β)} {stop : Stop β} {others : List (Meaning β (Value β))}
    (first : evaluator.bound bindings env depth =
      values.map Except.ok ++ Except.error stop :: others)
    (next next' : Env β → Run (Value β)) :
    evaluator.evalBindings bindings env scope depth next =
      evaluator.evalBindings (bindings.take (values.length + 1)) env scope depth next' := by
  induction values generalizing bindings scope with
  | nil =>
    obtain ⟨binding, after, rfl, stops, -⟩ := List.map_eq_cons_iff.mp first
    have cut := Run.unlessRaised_of_stop (stops ▸ means_meaningAt oblivious binding.value env depth)
    rw [List.length_nil, List.take_succ_cons, evalBindings, evalBindings, cut, cut]
  | cons value values ih =>
    obtain ⟨binding, after, rfl, -, rest⟩ := List.map_eq_cons_iff.mp first
    rw [List.length_cons, List.take_succ_cons, evalBindings, evalBindings]
    exact congrArg (Run.unlessRaised _) (funext fun value => ih rest)

/-- Several bindings at the same time mean what the body means in the environment that has all of
their values, unless one of them has no value. -/
theorem means_letAll {bindings : List (Binding (Expr β))} (body : Expr β) (env : Env β)
    (depth : Nat)
    (shown : evaluator.trace = true → ∀ binding ∈ bindings, binding.value.text?.isSome) :
    (evaluator.evalAt (.letAll bindings body) env depth).Means
      ((evaluator.bound bindings env (depth + 1)).mapM id >>= fun values =>
        evaluator.meaningAt body (env.bindAll ((bindings.map (·.name)).zip values))
          (depth + 1)) := by
  by_cases beyond : evaluator.Beyond depth
  · -- Past the limit what is bound raises the same as the form, and without bindings the body does.
    have raises (expression : Expr β) (env : Env β) :
        evaluator.meaningAt expression env (depth + 1) = .give (limitExceeded evaluator.maxDepth) :=
      meaningAt_beyond beyond.deeper expression env
    rw [evalAt_beyond beyond]
    simp only [bound, raises]
    cases bindings with
    | nil => exact .give _
    | cons binding others =>
      rw [List.map_cons, List.mapM_cons]
      exact fun _ => rfl
  · rw [evalAt]
    refine means_takeUp beyond (fun traced => (isSome_text?_letAll _ _).mpr (shown traced)) ?_
    exact means_evalBindings oblivious bindings env env (depth + 1) fun values =>
      means_meaningAt oblivious body _ _

/-- Bindings of different names to values, or with one reason to stop, can be put in any order. -/
theorem mapM_bound_of_perm {bindings bindings' : List (Binding (Expr β))}
    (perm : bindings'.Perm bindings) (distinct : (bindings.map (·.name)).Nodup) {env : Env β}
    {depth : Nat} (alone : ∀ stop stop', .error stop ∈ evaluator.bound bindings env depth →
      .error stop' ∈ evaluator.bound bindings env depth → stop = stop') (body : Expr β) :
    ((evaluator.bound bindings' env depth).mapM id >>= fun values => evaluator.meaningAt body
      (env.bindAll ((bindings'.map (·.name)).zip values)) depth) =
    ((evaluator.bound bindings env depth).mapM id >>= fun values => evaluator.meaningAt body
      (env.bindAll ((bindings.map (·.name)).zip values)) depth) := by
  have same : (evaluator.bound bindings' env depth).Perm (evaluator.bound bindings env depth) :=
    perm.map _
  obtain ⟨values, values', all, all'⟩ | ⟨stop, stop', there, there', stops, stops'⟩ :=
    Meaning.values_or_stop_of_perm same
  · have lengths : values.length = bindings.length := by
      simpa [bound] using (congrArg List.length all).symm
    have names : ((bindings.map (·.name)).zip values).map Prod.fst = bindings.map (·.name) :=
      List.map_fst_zip (Nat.le_of_eq ((List.length_map _).trans lengths.symm))
    have agrees := Env.Agrees.bindAll_of_perm (zip_perm_of_bound perm.symm all all')
      (by rwa [names]) env
    rw [all, all', Meaning.mapM_id_of_values, Meaning.mapM_id_of_values]
    exact congrArg Meaning.ofOutcome ((Correspondence.sameOutcomes evaluator oblivious).of_agrees
      (fun _ _ => ⟨rfl, rfl⟩) agrees body depth {} {}).symm
  · rw [stops, stops', alone stop' stop there' there]
    rfl

/-- Bindings of different names to values, or with one reason to stop, have the same outcome in any
order. Under a trace all orders have a text or none has. -/
theorem sameOutcome_letAll_of_perm {bindings bindings' : List (Binding (Expr β))}
    (perm : bindings'.Perm bindings) (distinct : (bindings.map (·.name)).Nodup) {env : Env β}
    {depth : Nat} (alone : ∀ stop stop', .error stop ∈ evaluator.bound bindings env (depth + 1) →
      .error stop' ∈ evaluator.bound bindings env (depth + 1) → stop = stop') (body : Expr β) :
    (evaluator.evalAt (.letAll bindings' body) env depth).SameOutcome
      (evaluator.evalAt (.letAll bindings body) env depth) := by
  by_cases shown : evaluator.trace = true → ∀ binding ∈ bindings, binding.value.text?.isSome
  · have shown' (traced : evaluator.trace = true) :
        ∀ binding ∈ bindings', binding.value.text?.isSome :=
      fun binding inside => shown traced binding (perm.mem_iff.mp inside)
    have means := means_letAll oblivious body env depth shown'
    rw [mapM_bound_of_perm oblivious perm distinct alone body] at means
    exact means.sameOutcome (means_letAll oblivious body env depth shown)
  · obtain ⟨traced, textless⟩ := Classical.not_imp.mp shown
    have textless' : ¬ ∀ binding ∈ bindings', binding.value.text?.isSome :=
      fun all => textless fun binding inside => all binding (perm.mem_iff.mpr inside)
    rw [← isSome_text?_letAll _ body, Option.not_isSome_iff_eq_none] at textless textless'
    by_cases beyond : evaluator.Beyond depth
    · rw [evalAt_beyond beyond, evalAt_beyond beyond]
      exact .give _
    · rw [evalAt_untraceable beyond traced textless, evalAt_untraceable beyond traced textless']
      exact .stop _

/-- Several names are bound at the same time. Each bound expression is evaluated around the form,
where none of the names is bound by it, and when all come to values the form comes to what the body
does with all names bound. Different names can be bound in any order, unless there are different
reasons why no value is bound: then the first bound expression that raises or faults ends the form
in the way it ends itself, and neither the bound expressions after it nor the body are evaluated, so
whatever would follow makes no difference to the run. Under a trace the form is written down before
anything is evaluated, which is a fault when a bound expression has no text. -/
theorem outcome_letAll (bindings : List (Binding (Expr β))) (body : Expr β) (env : Env β)
    (depth : Nat) (ledger : Ledger) :
    (∀ values : List (Value β),
      evaluator.bound bindings env (depth + 1) = values.map Except.ok →
      (evaluator.evalAt (.letAll bindings body) env depth).outcome ledger =
        (evaluator.evalAt body (env.bindAll ((bindings.map (·.name)).zip values))
          (depth + 1)).outcome ledger) ∧
    (∀ bindings' : List (Binding (Expr β)), bindings'.Perm bindings →
      (bindings.map (·.name)).Nodup →
      (∀ stop stop', .error stop ∈ evaluator.bound bindings env (depth + 1) →
        .error stop' ∈ evaluator.bound bindings env (depth + 1) → stop = stop') →
      (evaluator.evalAt (.letAll bindings' body) env depth).outcome ledger =
        (evaluator.evalAt (.letAll bindings body) env depth).outcome ledger) ∧
    (∀ (values : List (Value β)) (stop : Stop β) (others : List (Meaning β (Value β))),
      (evaluator.trace = true → ∀ binding ∈ bindings, binding.value.text?.isSome) →
      evaluator.bound bindings env (depth + 1) =
        values.map Except.ok ++ Except.error stop :: others →
      (evaluator.evalAt (.letAll bindings body) env depth).outcome ledger = stop.outcome ∧
      ∀ next, evaluator.evalAt (.letAll bindings body) env depth =
        evaluator.takeUp (.letAll bindings body) depth
          (evaluator.evalBindings (bindings.take (values.length + 1)) env env (depth + 1)
            next)) := by
  refine ⟨?_, ?_, ?_⟩
  · intro values all
    have shown (traced : evaluator.trace = true) :
        ∀ binding ∈ bindings, binding.value.text?.isSome := by
      intro binding inside
      have meant : evaluator.meaningAt binding.value env (depth + 1) ∈ values.map Except.ok :=
        all ▸ List.mem_map_of_mem inside
      obtain ⟨value, -, means⟩ := List.mem_map.mp meant
      exact isSome_text?_of_means traced means.symm
    have means := means_letAll oblivious body env depth shown ledger
    rw [all, Meaning.mapM_id_of_values] at means
    exact Meaning.ofOutcome_injective (means.trans (means_meaningAt oblivious body _ _ ledger).symm)
  · intro bindings' perm distinct alone
    exact sameOutcome_letAll_of_perm oblivious perm distinct alone body ledger ledger
  · intro values stop others shown first
    constructor
    · have means := means_letAll oblivious body env depth shown ledger
      rw [first, Meaning.mapM_id_of_stop] at means
      exact Meaning.eq_outcome_of_ofOutcome means
    · intro next
      rw [evalAt, evalBindings_cut oblivious first]

end Oblivious

/-! ## Names that change places -/

/-- Two names that are each bound to what the other one is bound to around the form. -/
def swap : List (Binding (Expr Host)) := [⟨"x", .var "y"⟩, ⟨"y", .var "x"⟩]

/-- The pair of what two names are bound to. -/
def pairUp : Expr Host := .construct "pair" "" [.var "x", .var "y"]

/-- What the two names are bound to around the form. -/
def ordered : Env Host := (Env.empty.bind "x" (.int 1)).bind "y" (.int 2)

/-- Two names change places at the same time, in either order. -/
theorem outcome_letAll_swap :
    (new 50 true : Evaluator Host).Oblivious ∧ (swap.map (·.name)).Nodup ∧
      ((new 50 true).evalAt (.letAll swap pairUp) ordered 0).outcome {} =
        .ok (.data "pair" "" [.int 2, .int 1]) ∧
      ((new 50 true).evalAt (.letAll swap.reverse pairUp) ordered 0).outcome {} =
        .ok (.data "pair" "" [.int 2, .int 1]) ∧
      ((new 50 true).evalAt (.letAll (swap ++ [⟨"z", .raise (.int 1)⟩, ⟨"w", .call "f" []⟩]) pairUp)
        ordered 0).outcome {} = .ok (.exception (.int 1)) := by
  have oblivious : (new 50 true : Evaluator Host).Oblivious := oblivious_new 50 true
  have distinct : (swap.map (·.name)).Nodup := by decide
  have values : (new 50 true).bound swap ordered 1 = [.int 2, .int 1].map Except.ok := rfl
  obtain ⟨whole, anyOrder, -⟩ := outcome_letAll oblivious swap pairUp ordered 0 {}
  obtain ⟨-, -, stops⟩ := outcome_letAll oblivious
    (swap ++ [⟨"z", .raise (.int 1)⟩, ⟨"w", .call "f" []⟩]) pairUp ordered 0 {}
  have swapped := whole [.int 2, .int 1] values
  have clear (stop : Stop Host) : Except.error stop ∉ (new 50 true).bound swap ordered 1 := by
    rw [values]
    simp
  refine ⟨oblivious, distinct, swapped, ?_, ?_⟩
  · exact (anyOrder swap.reverse swap.reverse_perm distinct fun stop _ inside =>
      absurd inside (clear stop)).trans swapped
  · refine (stops [.int 2, .int 1] (.raised (.int 1)) _ (fun _ => ?_) rfl).1
    simp only [swap, List.cons_append, List.nil_append, List.forall_mem_cons, List.not_mem_nil,
      false_implies, implies_true]
    exact ⟨rfl, rfl, rfl, rfl, trivial⟩

/-- Faults count as well. A bound expression that is a fault keeps a later one from raising, and of
two different faults the order of the bindings decides which one ends the form. -/
theorem not_outcome_letAll_of_faults :
    (¬ ∀ (before after : List (Binding (Expr Host))) (binding : Binding (Expr Host))
      (body : Expr Host) (raised : Value Host),
      ((before ++ binding :: after).map (·.name)).Nodup →
      (∀ earlier ∈ before, ∀ value, (new 50 false).meaningAt earlier.value .empty 1 ≠
        .error (.raised value)) →
      (new 50 false).meaningAt binding.value .empty 1 = .error (.raised raised) →
      ((new 50 false).evalAt (.letAll (before ++ binding :: after) body) .empty 0).outcome {} =
        .ok (.exception raised)) ∧
    (¬ ∀ (bindings bindings' : List (Binding (Expr Host))) (body : Expr Host),
      bindings'.Perm bindings → (bindings.map (·.name)).Nodup →
      (∀ binding ∈ bindings, ∀ value, (new 50 false).meaningAt binding.value .empty 1 ≠
        .error (.raised value)) →
      ((new 50 false).evalAt (.letAll bindings' body) .empty 0).outcome {} =
        ((new 50 false).evalAt (.letAll bindings body) .empty 0).outcome {}) := by
  have raisesNot (name : String) (fails : (new 50 false).meaningAt (.call name []) .empty 1 =
      (.error (.fault (.undefinedFunction name)) : Meaning Host (Value Host)))
      (value : Value Host) :
      (new 50 false).meaningAt (.call name []) .empty 1 ≠ .error (.raised value) := by
    rw [fails]
    exact nofun
  constructor
  · intro raises
    have fault : (Except.error (.undefinedFunction "f") : Except EvalFault (Value Host)) =
        .ok (.exception (.int 1)) :=
      raises [⟨"x", .call "f" []⟩] [] ⟨"y", .raise (.int 1)⟩ (.var "y") (.int 1)
        (by decide) (List.forall_mem_singleton.mpr (raisesNot "f" rfl)) rfl
    cases fault
  · intro same
    have faults : (Except.error (.undefinedFunction "g") : Except EvalFault (Value Host)) =
        .error (.undefinedFunction "f") :=
      same [⟨"x", .call "f" []⟩, ⟨"y", .call "g" []⟩] [⟨"y", .call "g" []⟩, ⟨"x", .call "f" []⟩]
        (.var "y") (.swap ..) (by decide) (List.forall_mem_cons.mpr
          ⟨raisesNot "f" rfl, List.forall_mem_singleton.mpr (raisesNot "g" rfl)⟩)
    have names : "g" = "f" := EvalFault.undefinedFunction.inj (Except.error.inj faults)
    exact absurd names (by decide)

end Evaluator

end GrammarKit
