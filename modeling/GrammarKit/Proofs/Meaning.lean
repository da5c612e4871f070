import GrammarKit.Proofs.Irrelevance
/-!
# What expressions mean

In an evaluator that is oblivious and has no limit on nesting, what an expression comes to depends
on nothing but the environment. That is its meaning (`Evaluator.meaning`): a value that is no
exception, or the reason why there is none, which is what was raised or a fault. In this form both
end a computation in the same way, so going on unless something was raised is the bind of a monad,
and the forms of the language have equations between meanings. Expressions with the same meaning
have the same outcome at all depths and from all ledgers (`Evaluator.sameOutcome_of_meaning_eq`).
-/

namespace GrammarKit

variable {β : Type}

/-- Why a computation does not come to a value. -/
inductive Stop (β : Type) where
  /-- A value was raised. -/
  | raised (value : Value β)
  /-- There was a fault. -/
  | fault (fault : EvalFault)

/-- What a computation comes to, when it may stop instead. -/
abbrev Meaning (β α : Type) := Except (Stop β) α

/-- How an evaluation ends that stops. -/
def Stop.outcome : Stop β → Except EvalFault (Value β)
  | .raised value => .ok (.exception value)
  | .fault problem => .error problem

/-- The reason to stop that a list is called for and something else is there. -/
def Stop.notAList (value : Value β) : Stop β :=
  .raised (.data "type_error" "" [.symbol "bind<list>", value])

/-- The items of a list, which anything else has none of. -/
def Value.items : Value β → Meaning β (List (Value β))
  | .list items => .ok items
  | other => .error (.notAList other)

namespace Meaning

/-- What an outcome means: an exception is no value but a reason to stop. -/
def ofOutcome : Except EvalFault (Value β) → Meaning β (Value β)
  | .ok (.exception raised) => .error (.raised raised)
  | .ok value => .ok value
  | .error fault => .error (.fault fault)

/-- What giving a value means. -/
def give (value : Value β) : Meaning β (Value β) := ofOutcome (.ok value)

/-- Giving a value that is no exception means this value. -/
theorem give_of_ordinary {value : Value β} (ordinary : value.isException = false) :
    give value = .ok value := by
  cases value with
  | exception raised => exact absurd ordinary Bool.noConfusion
  | _ => rfl

/-- An outcome that means a value is this value, which is no exception. -/
theorem eq_ok_of_ofOutcome {outcome : Except EvalFault (Value β)} {value : Value β}
    (means : ofOutcome outcome = .ok value) : outcome = .ok value ∧ value.isException = false := by
  cases outcome with
  | error fault => cases means
  | ok result =>
    cases result with
    | exception raised => cases means
    | _ =>
      cases means
      exact ⟨rfl, rfl⟩

/-- An outcome that means a reason to stop is how that reason ends an evaluation. -/
theorem eq_outcome_of_ofOutcome {outcome : Except EvalFault (Value β)} {stop : Stop β}
    (means : ofOutcome outcome = .error stop) : outcome = stop.outcome := by
  cases outcome with
  | error fault =>
    cases means
    rfl
  | ok result =>
    cases result with
    | exception raised =>
      cases means
      rfl
    | _ => cases means

/-- Different outcomes mean different things. -/
theorem ofOutcome_injective : Function.Injective (ofOutcome (β := β)) := by
  intro outcome outcome' same
  cases means : ofOutcome outcome' with
  | ok value => rw [(eq_ok_of_ofOutcome means).1, (eq_ok_of_ofOutcome (same.trans means)).1]
  | error stop => rw [eq_outcome_of_ofOutcome means, eq_outcome_of_ofOutcome (same.trans means)]

end Meaning

/-! ## Results in order -/

namespace Meaning

variable {α : Type}

/-- Results that are all values are these values. -/
theorem mapM_id_of_values (values : List α) :
    (values.map (Except.ok : α → Meaning β α)).mapM id = .ok values := by
  rw [List.mapM_map]
  exact (List.mapM_pure (m := Except (Stop β))).trans (congrArg Except.ok (List.map_id values))

/-- Results one of which is a reason to stop, after values, are the reason to stop. -/
theorem mapM_id_of_stop (before : List α) (stop : Stop β) (after : List (Meaning β α)) :
    (before.map Except.ok ++ Except.error stop :: after : List (Meaning β α)).mapM id =
      .error stop := by
  rw [List.mapM_append, mapM_id_of_values, List.mapM_cons]
  rfl

/-- Results are all values, or there is a first reason to stop among them. -/
theorem values_or_stop (results : List (Meaning β α)) :
    (∃ values : List α, results = values.map Except.ok) ∨
      ∃ (before : List α) (stop : Stop β) (after : List (Meaning β α)),
        results = before.map Except.ok ++ Except.error stop :: after := by
  induction results with
  | nil => exact .inl ⟨[], rfl⟩
  | cons result results ih =>
    cases result with
    | error stop => exact .inr ⟨[], stop, results, rfl⟩
    | ok value =>
      obtain ⟨values, rfl⟩ | ⟨before, stop, after, rfl⟩ := ih
      · exact .inl ⟨value :: values, rfl⟩
      · exact .inr ⟨value :: before, stop, after, rfl⟩

/-- Results in another order are all values again, or each order stops for a reason among them. -/
theorem values_or_stop_of_perm {results results' : List (Meaning β α)}
    (perm : results'.Perm results) :
    (∃ values values' : List α,
      results = values.map Except.ok ∧ results' = values'.map Except.ok) ∨
      ∃ stop stop' : Stop β, .error stop ∈ results ∧ .error stop' ∈ results ∧
        results.mapM id = .error stop ∧ results'.mapM id = .error stop' := by
  have clear (values : List α) (stop : Stop β) :
      Except.error stop ∉ values.map (Except.ok : α → Meaning β α) := by simp
  obtain ⟨values, rfl⟩ | ⟨before, stop, after, rfl⟩ := values_or_stop results <;>
  obtain ⟨values', rfl⟩ | ⟨before', stop', after', rfl⟩ := values_or_stop results'
  · exact .inl ⟨values, values', rfl, rfl⟩
  · exact absurd (perm.mem_iff.mp (by simp)) (clear values stop')
  · exact absurd (perm.mem_iff.mpr (by simp)) (clear values' stop)
  · exact .inr ⟨stop, stop', by simp, perm.mem_iff.mp (by simp), mapM_id_of_stop ..,
      mapM_id_of_stop ..⟩

end Meaning

/-! ## What runs come to -/

/-- Whether a run comes to what is meant, whatever has been written down. -/
def Run.Means (run : Run (Value β)) (meaning : Meaning β (Value β)) : Prop :=
  ∀ ledger, .ofOutcome (run.outcome ledger) = meaning

namespace Run.Means

variable {run run' : Run (Value β)} {meaning meaning' : Meaning β (Value β)}

/-- Giving a value. -/
theorem give (value : Value β) : (pure value : Run (Value β)).Means (.give value) := fun _ => rfl

/-- A run that means something has the same outcome as any run that means the same. -/
theorem sameOutcome (means : run.Means meaning) (means' : run'.Means meaning) :
    run.SameOutcome run' :=
  fun ledger ledger' => Meaning.ofOutcome_injective ((means ledger).trans (means' ledger').symm)

/-- A run with the same outcome as one that means something means the same. -/
theorem of_sameOutcome (means : run.Means meaning) (same : run'.SameOutcome run) :
    run'.Means meaning := by
  intro ledger
  rw [same ledger ledger]
  exact means ledger

/-- Going on unless something was raised is the bind of meanings. -/
theorem unlessRaised (means : run.Means meaning) {next : Value β → Run (Value β)}
    {next' : Value β → Meaning β (Value β)}
    (after : ∀ value, value.isException = false → (next value).Means (next' value)) :
    (run.unlessRaised next).Means (meaning >>= next') := by
  intro ledger
  have first := means ledger
  unfold outcome at first ⊢
  rw [run_unlessRaised]
  generalize run.run.run ledger = ended at first ⊢
  obtain ⟨result, left⟩ := ended
  cases meaning with
  | error stop =>
    have stops : result = stop.outcome := Meaning.eq_outcome_of_ofOutcome first
    rw [stops]
    cases stop <;> rfl
  | ok value =>
    obtain ⟨gives, ordinary⟩ := Meaning.eq_ok_of_ofOutcome first
    obtain rfl : result = .ok value := gives
    simp only [ordinary, Bool.false_eq_true, ↓reduceIte]
    exact after value ordinary left

end Run.Means

namespace Feed

/-- What comes back for each of several items, which has to be a list, all put together. -/
def collect (next : Value β → Meaning β (Value β)) :
    List (Value β) → Meaning β (List (Value β))
  | [] => .ok []
  | item :: items => do
    let more ← next item >>= Value.items
    let others ← collect next items
    return more ++ others

/-- What running what follows on the items of a feed means. -/
def meaning (next : Value β → Meaning β (Value β)) : Feed β → Meaning β (Value β)
  | .halt result => .give result
  | .one item => next item
  | .each items => Value.list <$> collect next items

/-- Gathering lists goes on unless something was raised. -/
theorem gather_cons_eq_unlessRaised (next : Value β → Run (Value β)) (gathered : List (Value β))
    (item : Value β) (items : List (Value β)) :
    gather next gathered (item :: items) = (next item).unlessRaised fun value =>
      match value with
      | .list more => gather next (gathered ++ more) items
      | other => pure (.typeError "bind<list>" [other]) := by
  rw [gather, Run.unlessRaised]
  refine congrArg (next item >>= ·) (funext fun value => ?_)
  cases value <;> rfl

variable {next : Value β → Run (Value β)} {next' : Value β → Meaning β (Value β)}

/-- Gathering lists means putting them together, after those already gathered. -/
theorem means_gather (after : ∀ item, (next item).Means (next' item))
    (gathered items : List (Value β)) :
    (gather next gathered items : Run (Value β)).Means
      ((fun more => Value.list (gathered ++ more)) <$> collect next' items) := by
  induction items generalizing gathered with
  | nil =>
    have empty : (pure (.list gathered) : Run (Value β)).Means (.ok (.list (gathered ++ []))) := by
      rw [List.append_nil]
      exact .give (.list gathered)
    exact empty
  | cons item items ih =>
    rw [gather_cons_eq_unlessRaised, collect, map_bind, bind_assoc]
    refine (after item).unlessRaised fun value ordinary => ?_
    cases value with
    | list more =>
      have later := ih (gathered ++ more)
      simp only [List.append_assoc] at later
      change Run.Means _ ((fun all => Value.list (gathered ++ all)) <$>
        (collect next' items >>= fun others => pure (more ++ others)))
      rwa [bind_pure_comp, Functor.map_map]
    | exception raised => exact absurd ordinary Bool.noConfusion
    | _ => exact fun _ => rfl

/-- Running what follows on a feed means what the feed does with what it means. -/
theorem means_run (after : ∀ item, (next item).Means (next' item)) (feed : Feed β) :
    (feed.run next).Means (feed.meaning next') := by
  cases feed with
  | halt result => exact .give result
  | one item => exact after item
  | each items => exact means_gather after [] items

end Feed

namespace Evaluator

variable [Payload β] {evaluator : Evaluator β}

/-- What an expression means in an environment. -/
def meaning (evaluator : Evaluator β) (expression : Expr β) (env : Env β) : Meaning β (Value β) :=
  .ofOutcome ((evaluator.eval expression env).outcome {})

/-- What a name is bound to has no part in the meaning of an expression that it is not free in. -/
theorem meaning_bind_of_unread (oblivious : evaluator.Oblivious) {name : String}
    {expression : Expr β} (unread : name ∉ expression.freeNames) (value : Value β) (env : Env β) :
    evaluator.meaning expression (env.bind name value) = evaluator.meaning expression env := by
  have alike := alikeThrough_evalAt_bind oblivious.blind (fun _ _ _ => rfl) unread value env 0
  exact congrArg Meaning.ofOutcome (alike {} {} rfl).1

/-- What taking up an expression that has a text means, within the limit, is what its evaluation
means. -/
theorem means_takeUp {expression : Expr β} {depth : Nat} (within : ¬ evaluator.Beyond depth)
    (shown : evaluator.trace = true → expression.text?.isSome) {run : Run (Value β)}
    {meaning : Meaning β (Value β)} (means : run.Means meaning) :
    (evaluator.takeUp expression depth run).Means meaning := by
  have alike : (evaluator.takeUp expression depth run).AlikeThrough (fun _ => ()) run :=
    alikeThrough_takeUp within (fun _ _ _ => rfl) shown
      (Run.AlikeThrough.iff_sameOutcome.mpr (means.sameOutcome means))
  exact means.of_sameOutcome (Run.AlikeThrough.iff_sameOutcome.mp alike)

/-- The meaning of a name is what it is bound to. -/
theorem meaning_var (unlimited : ¬ 0 < evaluator.maxDepth) (name : String) (env : Env β) :
    evaluator.meaning (.var name) env = .give ((env.lookup name).getD (.symbol name)) := by
  rw [meaning, eval, evalAt]
  exact means_takeUp (not_beyond unlimited 0) (fun _ => rfl) (.give _) {}

variable (oblivious : evaluator.Oblivious) (unlimited : ¬ 0 < evaluator.maxDepth)

include oblivious unlimited

/-- In environments that agree an expression comes to what it means, at whatever depth. -/
theorem means_of_agrees {env env' : Env β} (agrees : env.Agrees env') (expression : Expr β)
    (depth : Nat) :
    (evaluator.evalAt expression env depth).Means (evaluator.meaning expression env') := by
  intro ledger
  have alike := alikeThrough_evalAt oblivious.blind (fun _ _ _ => rfl) unlimited agrees expression
    depth 0
  exact congrArg Meaning.ofOutcome (alike ledger {} rfl).1

/-- An expression comes to what it means, at whatever depth. -/
theorem means_evalAt (expression : Expr β) (env : Env β) (depth : Nat) :
    (evaluator.evalAt expression env depth).Means (evaluator.meaning expression env) :=
  means_of_agrees oblivious unlimited (.refl env) expression depth

/-- Expressions that mean the same have the same outcome, at whatever depths. -/
theorem sameOutcome_of_meaning_eq {expression expression' : Expr β} {env env' : Env β}
    (same : evaluator.meaning expression env = evaluator.meaning expression' env')
    (depth depth' : Nat) :
    (evaluator.evalAt expression env depth).SameOutcome
      (evaluator.evalAt expression' env' depth') :=
  (means_evalAt oblivious unlimited expression env depth).sameOutcome
    (same ▸ means_evalAt oblivious unlimited expression' env' depth')

/-- An expression means the same in environments that agree. -/
theorem meaning_of_agrees {env env' : Env β} (agrees : env.Agrees env') (expression : Expr β) :
    evaluator.meaning expression env = evaluator.meaning expression env' :=
  means_of_agrees oblivious unlimited agrees expression 0 {}

/-! ## Equations -/

/-- The meaning of a let is that of its body with the meaning of what it binds. -/
theorem meaning_letIn (name : String) (bound body : Expr β) (env : Env β) :
    evaluator.meaning (.letIn name bound body) env =
      evaluator.meaning bound env >>= fun value =>
        evaluator.meaning body (env.bind name value) := by
  rw [meaning, eval, evalAt]
  refine means_takeUp (not_beyond unlimited 0) (fun _ => rfl) ?_ {}
  exact (means_evalAt oblivious unlimited bound env 1).unlessRaised fun value _ =>
    means_evalAt oblivious unlimited body _ 1

/-- The meaning of a lift is the meaning of what it lifts, lifted. -/
theorem meaning_lift {tag : String} {context : Context β}
    (found : evaluator.context? tag = some context) (lifted : Expr β) (env : Env β) :
    evaluator.meaning (.lift tag lifted) env =
      evaluator.meaning lifted env >>= fun value => .give (context.lift value) := by
  rw [meaning, eval, evalAt, contextFor_bind found]
  refine means_takeUp (not_beyond unlimited 0) (fun _ => rfl) ?_ {}
  exact (means_evalAt oblivious unlimited lifted env 1).unlessRaised fun value _ =>
    .give (context.lift value)

/-- The meaning of a bind is what the plan of its context does with the meanings of its body. -/
theorem meaning_bind {tag : String} {plan : Plan β}
    (found : evaluator.context? tag = some plan.context) (fed : Expr β) (name : String)
    (body : Expr β) (env : Env β) :
    evaluator.meaning (.bind tag fed name body) env =
      evaluator.meaning fed env >>= fun value => (plan.feed value).meaning fun item =>
        evaluator.meaning body (if name = "" then env else env.bind name item) := by
  rw [meaning, eval, evalAt, contextFor_bind found]
  refine means_takeUp (not_beyond unlimited 0) (fun _ => rfl) ?_ {}
  exact (means_evalAt oblivious unlimited fed env 1).unlessRaised fun value _ =>
    Feed.means_run (fun item => means_evalAt oblivious unlimited body _ 1) (plan.feed value)

end Evaluator

end GrammarKit
