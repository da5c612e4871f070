import GrammarKit.Evaluator.Extension
import GrammarKit.Proofs.Correspondence
import GrammarKit.Proofs.Feed
import GrammarKit.Proofs.Run
/-!
# Evaluation and the ledger

What a run writes down has no say in its outcome, unless a function or a context looks at the
ledger. An evaluator is oblivious when none does; the evaluators that sessions build all are
(`Evaluator.oblivious_new`, `Oblivious.defineRecursive`, `ContextMode.oblivious_context`). Two
correspondences of an evaluator with itself go with this: one of equal runs, for evaluators that do
not trace, and one of runs with the same outcome, for oblivious ones.
-/

namespace GrammarKit

variable {β : Type}

/-- Whether a context feeds runs of the same outcome to runs of the same outcome. -/
def Context.Oblivious (context : Context β) : Prop :=
  ∀ value {next next' : Value β → Run (Value β)},
    (∀ item, (next item).SameOutcome (next' item)) →
      (context.bind value next).SameOutcome (context.bind value next')

namespace Context

/-- The built-in contexts are oblivious. -/
theorem oblivious_of_mem_builtIn {tag : String} {context : Context β}
    (member : (tag, context) ∈ builtIn) : context.Oblivious := by
  obtain ⟨plan, rfl⟩ := exists_plan_of_mem_builtIn member
  exact fun value _ _ same =>
    (plan.feed value).run_related .give (fun same after _ => .andThen same after) same

end Context

/-- The context of a counted mode is oblivious. -/
theorem ContextMode.oblivious_context (mode : ContextMode) (tag : String) :
    (mode.context tag : Context β).Oblivious := by
  intro value next next' same
  refine Run.SameOutcome.andThen (.tally tag) fun counted => ?_
  cases mode with
  | count => exact same value
  | stop => exact .give value
  | twice => exact (same value).andThen fun first => (same value).andThen fun second => .give _
  | wrap =>
    dsimp only
    split
    · exact same _
    · exact .give _

/-- Whether no function and no context of an evaluator takes notice of the ledger. -/
structure Evaluator.Oblivious (evaluator : Evaluator β) : Prop where
  /-- Functions have the same outcome whatever was written down. -/
  functions : ∀ {name function}, evaluator.function? name = some function →
    ∀ args, (function args).SameOutcome (function args)
  /-- Contexts are oblivious. -/
  contexts : ∀ {tag context}, evaluator.context? tag = some context → context.Oblivious

namespace Correspondence

variable [Payload β] (evaluator : Evaluator β)

/-- Equal runs of an evaluator that does not trace. -/
def equalRuns (untraced : evaluator.trace = false) : Correspondence evaluator evaluator :=
  .equal rfl rfl (fun _ depth _ depth' => depth = depth') <| by
    rintro expression depth expression' _ rfl run
    by_cases beyond : evaluator.Beyond depth
    · rw [Evaluator.takeUp_beyond beyond, Evaluator.takeUp_beyond beyond]
    · rw [Evaluator.takeUp_untraced beyond untraced, Evaluator.takeUp_untraced beyond untraced]

/-- Runs of an oblivious evaluator with the same outcome. -/
def sameOutcomes (oblivious : evaluator.Oblivious) : Correspondence evaluator evaluator where
  onRun run run' := run.SameOutcome run'
  onNode expression depth expression' depth' :=
    depth = depth' ∧ expression.text?.isSome = expression'.text?.isSome
  catching := True
  asking _ _ _ := trivial
  attempting _ := trivial
  give := .give
  stop := .stop
  andThen same after _ := .andThen same after
  functions name := rel_self fun function found => oblivious.functions found
  contexts tag := rel_self fun context found => ⟨fun value => rfl, oblivious.contexts found⟩
  takeUp := by
    rintro expression depth expression' _ run run' ⟨rfl, shown⟩ same
    by_cases beyond : evaluator.Beyond depth
    · rw [Evaluator.takeUp_beyond beyond, Evaluator.takeUp_beyond beyond]
      exact .give _
    cases traced : evaluator.trace with
    | false =>
      rwa [Evaluator.takeUp_untraced beyond traced, Evaluator.takeUp_untraced beyond traced]
    | true =>
      cases text : expression.text? with
      | none =>
        rw [text, Option.isSome_none, eq_comm, Option.isSome_eq_false_iff,
          Option.isNone_iff_eq_none] at shown
        rw [Evaluator.takeUp_untraceable beyond traced text,
          Evaluator.takeUp_untraceable beyond traced shown]
        exact .stop _
      | some words =>
        rw [text, Option.isSome_some, eq_comm, Option.isSome_iff_exists] at shown
        obtain ⟨words', text'⟩ := shown
        rw [Evaluator.takeUp_traced beyond traced text, Evaluator.takeUp_traced beyond traced text']
        exact Run.SameOutcome.andThen (.trace _ _) fun _ => same

end Correspondence

namespace Evaluator

variable {evaluator : Evaluator β}

/-- Defining an oblivious function keeps an evaluator oblivious. -/
theorem Oblivious.define (oblivious : evaluator.Oblivious) (name : String) {function : Function β}
    (same : ∀ args, (function args).SameOutcome (function args)) :
    (evaluator.define name function).Oblivious where
  functions {_ _} looked := by
    obtain rfl | there := eq_or_lookup_of_lookup_cons looked
    · exact same
    · exact oblivious.functions there
  contexts := oblivious.contexts

/-- Registering an oblivious context keeps an evaluator oblivious. -/
theorem Oblivious.register (oblivious : evaluator.Oblivious) (tag : String) {context : Context β}
    (same : context.Oblivious) : (evaluator.register tag context).Oblivious where
  functions := oblivious.functions
  contexts {_ _} looked := by
    obtain rfl | there := eq_or_lookup_of_lookup_cons looked
    · exact same
    · exact oblivious.contexts there

variable [Payload β]

/-- An oblivious evaluator evaluates with the same outcome whatever was written down. -/
theorem Oblivious.sameOutcome_evalAt (oblivious : evaluator.Oblivious) (expression : Expr β)
    (env : Env β) (depth : Nat) :
    (evaluator.evalAt expression env depth).SameOutcome (evaluator.evalAt expression env depth) :=
  (Correspondence.sameOutcomes evaluator oblivious).of_agrees (fun _ _ => ⟨rfl, rfl⟩) (.refl env)
    expression depth

/-- Taking up an expression that has a text within the limit keeps the outcome of its evaluation. -/
theorem sameOutcome_takeUp {expression : Expr β} {depth : Nat} (within : ¬ evaluator.Beyond depth)
    (shown : expression.text?.isSome) {run run' : Run (Value β)} (same : run.SameOutcome run') :
    (evaluator.takeUp expression depth run).SameOutcome run' := by
  cases traced : evaluator.trace with
  | false => rwa [takeUp_untraced within traced]
  | true =>
    obtain ⟨text, found⟩ := Option.isSome_iff_exists.mp shown
    rw [takeUp_traced within traced found]
    have recorded : (Run.trace (.evaluate text depth)).SameOutcome (pure ()) := fun _ _ => rfl
    simpa using recorded.andThen fun _ => same

/-- The evaluators with only the built-in functions and contexts are oblivious. -/
theorem oblivious_new (maxDepth : Int64) (trace : Bool) :
    (new maxDepth trace : Evaluator β).Oblivious where
  functions found := by
    obtain ⟨gives, -, rfl⟩ := exists_of_function?_new found
    exact fun args => .give _
  contexts found := Context.oblivious_of_mem_builtIn (mem_of_lookup found)

/-- Defining a function in the expression language keeps an evaluator oblivious. -/
theorem Oblivious.defineRecursive (oblivious : evaluator.Oblivious) (name : String)
    (parameters : List String) (body : Expr β) :
    (evaluator.defineRecursive name parameters body).Oblivious := by
  unfold Evaluator.defineRecursive
  generalize callLimit = fuel
  induction fuel with
  | zero => exact oblivious.define name fun args => .stop _
  | succ fuel ih =>
    exact oblivious.define name fun args =>
      Run.SameOutcome.andThen (.tally name) fun _ => ih.sameOutcome_evalAt body _ 0

end Evaluator

end GrammarKit
