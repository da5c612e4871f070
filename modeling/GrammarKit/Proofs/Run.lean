import GrammarKit.Evaluator.Basic
import GrammarKit.Proofs.Env
/-!
# Outcomes of runs

The outcome of a run is its value or the fault it stops with, without the ledger. Two runs have the
same outcome (`Run.SameOutcome`) when they have it from whatever ledgers they start; such runs take
no notice of what is written down, and going on keeps them so. A run that is another one unless it
is cut short (`Run.EqUnless`) stays so when what follows passes the cut on. The last section says
what taking up an expression comes to, case by case.
-/

namespace GrammarKit

namespace Run

variable {α γ : Type}

/-- The value of a run or its fault, without what it writes down. -/
def outcome (run : Run α) (ledger : Ledger) : Except EvalFault α := (run.run.run ledger).1

/-- Going on after a run goes on from the state it leaves, unless it stops. -/
theorem run_bind {ε σ : Type} (run : ExceptT ε (StateM σ) α) (next : α → ExceptT ε (StateM σ) γ)
    (state : σ) :
    (run >>= next).run.run state =
      match run.run.run state with
      | (.ok value, after) => (next value).run.run after
      | (.error fault, after) => (.error fault, after) := by
  rw [ExceptT.run_bind, StateT.run_bind]
  rcases run.run.run state with ⟨result, after⟩
  cases result <;> rfl

/-- Going on unless a run raises goes on with its value only when that is no exception. -/
theorem run_unlessRaised {β : Type} (run : Run (Value β)) (next : Value β → Run (Value β))
    (ledger : Ledger) :
    (run.unlessRaised next).run.run ledger =
      match run.run.run ledger with
      | (.ok value, after) =>
        if value.isException then (.ok value, after) else (next value).run.run after
      | (.error fault, after) => (.error fault, after) := by
  unfold unlessRaised
  rw [run_bind]
  generalize run.run.run ledger = ended
  obtain ⟨result, after⟩ := ended
  cases result with
  | ok value => cases value <;> rfl
  | error fault => rfl

/-- Whether two runs end with the same value or the same fault, from whatever ledgers. -/
def SameOutcome (run run' : Run α) : Prop :=
  ∀ ledger ledger', run.outcome ledger = run'.outcome ledger'

namespace SameOutcome

/-- Giving the same value is the same outcome. -/
theorem give (value : α) : SameOutcome (pure value) (pure value) := fun _ _ => rfl

/-- Stopping with the same fault is the same outcome. -/
theorem stop (fault : EvalFault) : SameOutcome (throw fault : Run α) (throw fault) := fun _ _ => rfl

/-- Whatever is recorded, recording has the same outcome. -/
theorem trace (record record' : Record) : SameOutcome (Run.trace record) (Run.trace record') :=
  fun _ _ => rfl

/-- Counting has the same outcome. -/
theorem tally (name : String) : SameOutcome (Run.tally name) (Run.tally name) := fun _ _ => rfl

/-- Runs with the same outcome that go on with the same outcome have the same outcome. -/
theorem andThen {run run' : Run α} {next next' : α → Run γ} (same : SameOutcome run run')
    (after : ∀ value, SameOutcome (next value) (next' value)) :
    SameOutcome (run >>= next) (run' >>= next') := by
  intro ledger ledger'
  have outcomes := same ledger ledger'
  unfold outcome at outcomes ⊢
  rw [run_bind, run_bind]
  generalize run.run.run ledger = ended, run'.run.run ledger' = ended' at outcomes ⊢
  obtain ⟨result, left⟩ := ended
  obtain ⟨result', left'⟩ := ended'
  obtain rfl : result = result' := outcomes
  cases result with
  | ok value => exact after value left left'
  | error fault => rfl

end SameOutcome

/-- Whether a run is another one, ledger and all, unless it gives a certain value. -/
def EqUnless (cut : α) (run run' : Run α) : Prop :=
  ∀ ledger, run.outcome ledger = .ok cut ∨ run.run.run ledger = run'.run.run ledger

namespace EqUnless

variable {cut : α}

/-- A run is itself. -/
theorem refl (run : Run α) : EqUnless cut run run := fun _ => .inr rfl

/-- Giving the cut is being cut short. -/
theorem given (run' : Run α) : EqUnless cut (pure cut) run' := fun _ => .inl rfl

/-- Runs that go on alike after the same run are alike. -/
theorem after (first : Run γ) {next next' : γ → Run α}
    (same : ∀ value, EqUnless cut (next value) (next' value)) :
    EqUnless cut (first >>= next) (first >>= next') := by
  intro ledger
  unfold outcome
  rw [run_bind, run_bind]
  generalize first.run.run ledger = ended
  obtain ⟨result, left⟩ := ended
  cases result with
  | ok value => exact same value left
  | error fault => exact .inr rfl

/-- Runs that are alike unless one is cut stay so when they go on alike and the cut is passed on. -/
theorem andThen {run run' : Run α} {next next' : α → Run α} (same : EqUnless cut run run')
    (alike : ∀ value, EqUnless cut (next value) (next' value)) (passed : next cut = pure cut) :
    EqUnless cut (run >>= next) (run' >>= next') := by
  intro ledger
  obtain given | equal := same ledger
  · refine .inl ?_
    unfold outcome at given ⊢
    rw [run_bind]
    generalize run.run.run ledger = ended at given ⊢
    obtain ⟨result, left⟩ := ended
    obtain rfl : result = .ok cut := given
    exact congrArg (fun run => (run.run.run left).1) passed
  · obtain cutOff | whole := after run alike ledger
    · exact .inl cutOff
    · refine .inr (whole.trans ?_)
      rw [run_bind, run_bind, equal]

end EqUnless

end Run

namespace Evaluator

variable {β : Type} {evaluator : Evaluator β} {expression : Expr β} {depth : Nat}

/-- Whether a depth is past the limit. -/
abbrev Beyond (evaluator : Evaluator β) (depth : Nat) : Prop :=
  0 < evaluator.maxDepth ∧ evaluator.maxDepth.toInt < depth

/-- A depth further down is past the limit as well. -/
theorem Beyond.deeper (beyond : evaluator.Beyond depth) : evaluator.Beyond (depth + 1) := by
  obtain ⟨limited, further⟩ := beyond
  exact ⟨limited, by omega⟩

/-- The evaluator with another limit on nesting. -/
def limitedTo (evaluator : Evaluator β) (limit : Int64) : Evaluator β :=
  { evaluator with maxDepth := limit }

/-- Without a limit no depth is past it. -/
theorem not_beyond_unlimited : ¬ (evaluator.limitedTo 0).Beyond depth :=
  fun beyond => Int64.lt_irrefl beyond.1

/-- What follows the look-up of a context that is there goes on with it. -/
theorem contextFor_bind {tag : String} {context : Context β}
    (found : evaluator.context? tag = some context) (next : Context β → Run (Value β)) :
    evaluator.contextFor tag >>= next = next context := by
  unfold contextFor
  rw [found]
  rfl

/-- What follows the look-up of a context that is missing is not gone on to. -/
theorem contextFor_bind_of_missing {tag : String} (missing : evaluator.context? tag = none)
    (next : Context β → Run (Value β)) :
    evaluator.contextFor tag >>= next = throw (.unregisteredContext tag) := by
  unfold contextFor
  rw [missing]
  rfl

variable [Payload β]

/-- Within the limit taking up an expression comes to the same as without one. -/
theorem takeUp_limitedTo {limit : Int64} (within : ¬ (evaluator.limitedTo limit).Beyond depth)
    (run : Run (Value β)) :
    (evaluator.limitedTo limit).takeUp expression depth run =
      (evaluator.limitedTo 0).takeUp expression depth run := by
  rw [takeUp, if_neg within, takeUp, if_neg not_beyond_unlimited]
  rfl

/-- Past the limit taking up an expression raises. -/
theorem takeUp_beyond (beyond : evaluator.Beyond depth) (run : Run (Value β)) :
    evaluator.takeUp expression depth run = pure (limitExceeded evaluator.maxDepth) := by
  rw [takeUp, if_pos beyond]

/-- Without a trace taking up an expression within the limit leaves its evaluation as it is. -/
theorem takeUp_untraced (within : ¬ evaluator.Beyond depth) (untraced : evaluator.trace = false)
    (run : Run (Value β)) : evaluator.takeUp expression depth run = run := by
  rw [takeUp, if_neg within, untraced]
  rfl

/-- With a trace taking up an expression within the limit records it first. -/
theorem takeUp_traced (within : ¬ evaluator.Beyond depth) (traced : evaluator.trace = true)
    {text : String} (shown : expression.text? = some text) (run : Run (Value β)) :
    evaluator.takeUp expression depth run =
      Run.trace (.evaluate text depth) >>= fun _ => run := by
  rw [takeUp, if_neg within, traced, shown]
  rfl

/-- With a trace taking up an expression without a text within the limit is a fault. -/
theorem takeUp_untraceable (within : ¬ evaluator.Beyond depth) (traced : evaluator.trace = true)
    (textless : expression.text? = none) (run : Run (Value β)) :
    evaluator.takeUp expression depth run = throw .untraceable := by
  rw [takeUp, if_neg within, traced, textless]
  rfl

/-- Taking up an expression keeps runs alike. -/
theorem eqUnless_takeUp {cut : Value β} {run run' : Run (Value β)} (same : run.EqUnless cut run') :
    (evaluator.takeUp expression depth run).EqUnless cut
      (evaluator.takeUp expression depth run') := by
  by_cases beyond : evaluator.Beyond depth
  · rw [takeUp_beyond beyond, takeUp_beyond beyond]
    exact .refl _
  cases traced : evaluator.trace with
  | false => rwa [takeUp_untraced beyond traced, takeUp_untraced beyond traced]
  | true =>
    cases text : expression.text? with
    | none =>
      rw [takeUp_untraceable beyond traced text, takeUp_untraceable beyond traced text]
      exact .refl _
    | some words =>
      rw [takeUp_traced beyond traced text, takeUp_traced beyond traced text]
      exact .after _ fun _ => same

/-- Past the limit evaluation raises. -/
theorem evalAt_beyond (beyond : evaluator.Beyond depth) (env : Env β) :
    evaluator.evalAt expression env depth = pure (limitExceeded evaluator.maxDepth) := by
  rw [evalAt.eq_def, takeUp_beyond beyond]

/-- With a trace an expression without a text cannot be evaluated within the limit. -/
theorem evalAt_untraceable (within : ¬ evaluator.Beyond depth) (traced : evaluator.trace = true)
    (textless : expression.text? = none) (env : Env β) :
    evaluator.evalAt expression env depth = throw .untraceable := by
  rw [evalAt.eq_def, takeUp_untraceable within traced textless]

/-- An evaluation that gives an ordinary value is within the limit. -/
theorem not_beyond_of_ok {env : Env β} {ledger after : Ledger} {value : Value β}
    (given : (evaluator.evalAt expression env depth).run.run ledger = (.ok value, after))
    (ordinary : value.isException = false) : ¬ evaluator.Beyond depth := by
  intro beyond
  rw [evalAt_beyond beyond] at given
  have same : limitExceeded evaluator.maxDepth = value := Except.ok.inj (congrArg Prod.fst given)
  rw [← same] at ordinary
  exact Bool.noConfusion ordinary

/-- The contexts of a new evaluator are the built-in ones. -/
theorem contexts_new (maxDepth : Int64) (trace : Bool) :
    (new maxDepth trace : Evaluator β).contexts = Context.builtIn := rfl

/-- The functions of a new evaluator are the built-in pure ones. -/
theorem exists_of_function?_new {maxDepth : Int64} {trace : Bool} {name : String}
    {function : Function β} (found : (new maxDepth trace).function? name = some function) :
    ∃ gives, (name, gives) ∈ Function.pureBuiltIn ∧ function = fun args => pure (gives args) := by
  have member : (name, function) ∈ (Function.builtIn : List (String × Function β)) :=
    mem_of_lookup found
  obtain ⟨⟨_, gives⟩, inside, same⟩ := List.mem_map.mp member
  obtain ⟨rfl, rfl⟩ := Prod.mk.inj same
  exact ⟨gives, inside, rfl⟩

end Evaluator

end GrammarKit
