import GrammarKit.Proofs.FreeNames
/-!
# What makes no difference to evaluation

Four things have no say in what an expression evaluates to: what is written down in the ledger, as
far as nothing looks at it; at which depth the expression is taken up, as long as no depth is past
the limit; what the names are bound to that the expression does not mention; and, when it has no
holes, whether the evaluator traces.

A view is what is looked at of a ledger: all of it (`id`), what is there besides the trace
(`Ledger.untraced`), or nothing (`fun _ => ()`). Runs that are alike through a view form a
correspondence of an evaluator with itself (`Correspondence.through`), provided that the view is all
that functions and contexts look at, and that it does not show the trace when there is one. The
correspondence overlooks that an expression is taken up. Two evaluators that may differ in whether
they trace have such a correspondence as well (`Correspondence.observed`), if they are alike
otherwise.
-/

namespace GrammarKit

variable {β γ : Type}

/-- The ledger without its trace records. -/
def Ledger.untraced (ledger : Ledger) : Ledger := { ledger with records := #[] }

/-- Whether a view does not show trace records. -/
def HidesTrace (view : Ledger → γ) : Prop :=
  ∀ (ledger : Ledger) (record : Record),
    view { ledger with records := ledger.records.push record } = view ledger

/-- Whether two runs end alike and leave ledgers that look alike, from ledgers that look alike. -/
def Run.AlikeThrough {α : Type} (view : Ledger → γ) (run run' : Run α) : Prop :=
  ∀ ledger ledger', view ledger = view ledger' →
    run.outcome ledger = run'.outcome ledger' ∧
      view (run.run.run ledger).2 = view (run'.run.run ledger').2

namespace Run.AlikeThrough

variable {α δ : Type} {view : Ledger → γ} {run run' : Run α}

/-- Giving the same value is alike. -/
theorem give (value : α) : AlikeThrough view (pure value : Run α) (pure value) :=
  fun _ _ same => ⟨rfl, same⟩

/-- Stopping with the same fault is alike. -/
theorem stop (fault : EvalFault) : AlikeThrough view (throw fault : Run α) (throw fault) :=
  fun _ _ same => ⟨rfl, same⟩

/-- Being alike goes both ways. -/
theorem symm (alike : AlikeThrough view run run') : AlikeThrough view run' run := by
  intro ledger ledger' same
  obtain ⟨outcomes, left⟩ := alike ledger' ledger same.symm
  exact ⟨outcomes.symm, left.symm⟩

/-- Runs that are alike and go on alike are alike. -/
theorem andThen {next next' : α → Run δ} (alike : AlikeThrough view run run')
    (after : ∀ value, AlikeThrough view (next value) (next' value)) :
    AlikeThrough view (run >>= next) (run' >>= next') := by
  intro ledger ledger' same
  obtain ⟨outcomes, left⟩ := alike ledger ledger' same
  unfold outcome at outcomes ⊢
  rw [run_bind, run_bind]
  generalize run.run.run ledger = ended, run'.run.run ledger' = ended' at outcomes left ⊢
  obtain ⟨result, afterwards⟩ := ended
  obtain ⟨result', afterwards'⟩ := ended'
  obtain rfl : result = result' := outcomes
  cases result with
  | ok value => exact after value afterwards afterwards' left
  | error fault => exact ⟨rfl, left⟩

/-- A trace record makes no difference where it is not seen. -/
theorem trace_left {record : Record}
    (hidden : HidesTrace view)
    (alike : AlikeThrough view run run') :
    AlikeThrough view (Run.trace record >>= fun _ => run) run' :=
  fun ledger ledger' same => alike _ ledger' ((hidden ledger record).trans same)

/-- Runs that are alike as far as all of the ledger goes are equal. -/
theorem eq_of_id (alike : AlikeThrough id run run') : run = run' := by
  refine funext fun ledger => ?_
  obtain ⟨outcomes, left⟩ := alike ledger ledger rfl
  exact Prod.ext outcomes left

/-- Runs that are alike as far as nothing of the ledger goes have the same outcome. -/
theorem iff_sameOutcome : AlikeThrough (fun _ => ()) run run' ↔ SameOutcome run run' :=
  ⟨fun alike ledger ledger' => (alike ledger ledger' rfl).1,
    fun same ledger ledger' _ => ⟨same ledger ledger', rfl⟩⟩

end Run.AlikeThrough

/-- Whether a view shows all that the functions and the contexts of an evaluator look at. -/
structure Evaluator.Blind (evaluator : Evaluator β) (view : Ledger → γ) : Prop where
  /-- Functions do alike. -/
  functions : ∀ {name function}, evaluator.function? name = some function →
    ∀ args, (function args).AlikeThrough view (function args)
  /-- Contexts feed runs that are alike to runs that are alike. -/
  contexts : ∀ {tag context}, evaluator.context? tag = some context →
    ∀ value {next next' : Value β → Run (Value β)},
      (∀ item, (next item).AlikeThrough view (next' item)) →
        (context.bind value next).AlikeThrough view (context.bind value next')

/-- Whether two evaluators have the same limit and functions and contexts that do alike, in view of
ledgers that look alike. -/
structure Evaluator.Alike (view : Ledger → γ) (first second : Evaluator β) : Prop where
  /-- Both have the same limit on nesting. -/
  limit : first.maxDepth = second.maxDepth
  /-- A name refers to functions that do alike. -/
  functions : ∀ name, Option.Rel
    (fun function function' => ∀ args, (function args).AlikeThrough view (function' args))
    (first.function? name) (second.function? name)
  /-- A tag is governed by contexts that lift alike and feed runs that are alike to runs that are
  alike. -/
  contexts : ∀ tag, Option.Rel
    (fun context context' => (∀ value, context.lift value = context'.lift value) ∧
      ∀ value {next next' : Value β → Run (Value β)},
        (∀ item, (next item).AlikeThrough view (next' item)) →
          (context.bind value next).AlikeThrough view (context'.bind value next'))
    (first.context? tag) (second.context? tag)

namespace Evaluator

variable {evaluator : Evaluator β}

/-- All of the ledger is all that can be looked at. -/
theorem blind_id (evaluator : Evaluator β) : evaluator.Blind id where
  functions _ args := by
    rintro ledger _ rfl
    exact ⟨rfl, rfl⟩
  contexts _ value next next' alike := by
    obtain rfl : next = next' := funext fun item => (alike item).eq_of_id
    rintro ledger _ rfl
    exact ⟨rfl, rfl⟩

/-- An oblivious evaluator looks at nothing. -/
theorem Oblivious.blind (oblivious : evaluator.Oblivious) : evaluator.Blind fun _ => () where
  functions found args := Run.AlikeThrough.iff_sameOutcome.mpr (oblivious.functions found args)
  contexts found value _ _ alike := Run.AlikeThrough.iff_sameOutcome.mpr <|
    oblivious.contexts found value fun item => Run.AlikeThrough.iff_sameOutcome.mp (alike item)

/-- The evaluators with only the built-in functions and contexts look at nothing of what a view
shows. -/
theorem blind_new [Payload β] (view : Ledger → γ) (maxDepth : Int64) (trace : Bool) :
    (new maxDepth trace : Evaluator β).Blind view where
  functions found := by
    obtain ⟨gives, -, rfl⟩ := exists_of_function?_new found
    exact fun args => .give _
  contexts found value _ _ alike := by
    obtain ⟨plan, rfl⟩ := Context.exists_plan_of_mem_builtIn (mem_of_lookup found)
    exact (plan.feed value).run_related .give (fun same after _ => .andThen same after) alike

/-- The evaluator that traces or not. -/
def tracing (evaluator : Evaluator β) (on : Bool) : Evaluator β := { evaluator with trace := on }

/-- Turning the trace on or off makes an evaluator that is alike, as far as functions and contexts
look. -/
theorem Blind.alike {view : Ledger → γ} (blind : evaluator.Blind view) (on off : Bool) :
    (evaluator.tracing on).Alike view (evaluator.tracing off) where
  limit := rfl
  functions _ := rel_self fun _ found => blind.functions found
  contexts _ := rel_self fun _ found => ⟨fun _ => rfl, blind.contexts found⟩

/-- Without a limit no depth is past it. -/
theorem not_beyond (unlimited : ¬ 0 < evaluator.maxDepth) (depth : Nat) :
    ¬ evaluator.Beyond depth := fun beyond => unlimited beyond.1

/-- Runs that are alike through every view that shows what is looked at have the same outcome. -/
theorem outcome_eq_of_alikeThrough
    (unseen : evaluator.trace = true → evaluator.Blind Ledger.untraced) {run run' : Run (Value β)}
    (alike : ∀ view : Ledger → Ledger, evaluator.Blind view →
      (evaluator.trace = true → HidesTrace view) → run.AlikeThrough view run') (ledger : Ledger) :
    run.outcome ledger = run'.outcome ledger := by
  cases traced : evaluator.trace with
  | false =>
    have untraced : evaluator.trace ≠ true := by rw [traced]; exact Bool.false_ne_true
    exact (alike id (blind_id evaluator) (fun tracing => absurd tracing untraced) ledger ledger
      rfl).1
  | true => exact (alike Ledger.untraced (unseen traced) (fun _ _ _ => rfl) ledger ledger rfl).1

variable [Payload β]

/-- Taking up an expression that has a text where there is a trace makes no difference to a view
that does not show the trace. -/
theorem alikeThrough_takeUp {view : Ledger → γ} {expression : Expr β} {depth : Nat}
    {run run' : Run (Value β)} (within : ¬ evaluator.Beyond depth)
    (hidden : evaluator.trace = true → HidesTrace view)
    (shown : evaluator.trace = true → expression.text?.isSome)
    (alike : run.AlikeThrough view run') :
    (evaluator.takeUp expression depth run).AlikeThrough view run' := by
  cases traced : evaluator.trace with
  | false => rwa [takeUp_untraced within traced]
  | true =>
    obtain ⟨text, found⟩ := Option.isSome_iff_exists.mp (shown traced)
    rw [takeUp_traced within traced found]
    exact .trace_left (hidden traced) alike

end Evaluator

variable [Payload β] {evaluator : Evaluator β}

open Evaluator

/-- Runs of an evaluator that are alike through a view. Expressions may be taken up side by side at
depths that are both past the limit or both within it. -/
def Correspondence.through (view : Ledger → γ) (blind : evaluator.Blind view)
    (hidden : evaluator.trace = true → HidesTrace view) :
    Correspondence evaluator evaluator where
  onRun run run' := run.AlikeThrough view run'
  onNode expression depth expression' depth' :=
    (evaluator.Beyond depth ↔ evaluator.Beyond depth') ∧
      (evaluator.trace = true → expression.text?.isSome = expression'.text?.isSome)
  catching := True
  asking _ _ _ := trivial
  attempting _ := trivial
  give := .give
  stop := .stop
  andThen alike after _ := .andThen alike after
  functions name := rel_self fun function found => blind.functions found
  contexts tag := rel_self fun context found => ⟨fun value => rfl, blind.contexts found⟩
  takeUp := by
    rintro expression depth expression' depth' run run' ⟨levels, texts⟩ alike
    by_cases beyond : evaluator.Beyond depth
    · rw [takeUp_beyond beyond, takeUp_beyond (levels.mp beyond)]
      exact .give _
    have within : ¬ evaluator.Beyond depth' := mt levels.mpr beyond
    by_cases shown : evaluator.trace = true → expression.text?.isSome
    · exact alikeThrough_takeUp beyond hidden shown (alikeThrough_takeUp within hidden
        (fun traced => texts traced ▸ shown traced) alike.symm).symm
    · obtain ⟨traced, textless⟩ := Classical.not_imp.mp shown
      have textless' : ¬ expression'.text?.isSome := texts traced ▸ textless
      rw [Option.not_isSome_iff_eq_none] at textless textless'
      rw [takeUp_untraceable beyond traced textless, takeUp_untraceable within traced textless']
      exact .stop _

section Consequences

variable {view : Ledger → γ} (blind : evaluator.Blind view)
  (hidden : evaluator.trace = true → HidesTrace view)

/-- An expression may be taken up beside itself. -/
theorem Correspondence.through_self (expression : Expr β) (depth : Nat) :
    (through view blind hidden).onNode expression depth expression depth :=
  ⟨.rfl, fun _ => rfl⟩

/-- An expression may be taken up beside what substitution makes of it. -/
theorem Correspondence.through_subst (name : String) (value : Value β) (expression : Expr β)
    (depth : Nat) :
    (through view blind hidden).onNode expression depth (expression.subst name value) depth :=
  ⟨.rfl, fun _ => (Expr.isSome_textWith?_subst _ expression).symm⟩

namespace Evaluator

include blind hidden

/-- An expression is evaluated alike in environments that agree. -/
theorem alikeThrough_of_agrees {env env' : Env β} (agrees : env.Agrees env')
    (expression : Expr β) (depth : Nat) :
    (evaluator.evalAt expression env depth).AlikeThrough view
      (evaluator.evalAt expression env' depth) :=
  (Correspondence.through view blind hidden).of_agrees (Correspondence.through_self blind hidden)
    agrees expression depth

/-- Without a limit an expression is evaluated alike at all depths, in environments that agree. -/
theorem alikeThrough_evalAt (unlimited : ¬ 0 < evaluator.maxDepth) {env env' : Env β}
    (agrees : env.Agrees env') (expression : Expr β) (depth depth' : Nat) :
    (evaluator.evalAt expression env depth).AlikeThrough view
      (evaluator.evalAt expression env' depth') := by
  refine (Correspondence.through view blind hidden).of_agrees_between (fun _ _ _ => True) ?_
    (fun _ _ _ => trivial) agrees trivial
  intro expression depth depth' _
  exact ⟨iff_of_false (not_beyond unlimited depth) (not_beyond unlimited depth'), fun _ => rfl⟩

/-- What a name is bound to makes no difference to an expression that it is not free in. -/
theorem alikeThrough_evalAt_bind {name : String} {expression : Expr β}
    (unread : name ∉ expression.freeNames) (value : Value β) (env : Env β) (depth : Nat) :
    (evaluator.evalAt expression (env.bind name value) depth).AlikeThrough view
      (evaluator.evalAt expression env depth) := by
  have substituted := (Correspondence.through view blind hidden).of_subst
    (Correspondence.through_self blind hidden)
    (Correspondence.through_subst blind hidden name value) (.refl (env.bind name value)) expression
    depth
  rwa [Expr.subst_eq_self unread] at substituted

/-- Steps are evaluated alike every time. -/
theorem alikeThrough_evalSteps {tag : String} {context : Context β}
    (found : evaluator.context? tag = some context) (steps : List (Step (Expr β))) (env : Env β)
    (depth : Nat) :
    (evaluator.evalSteps context steps env depth).AlikeThrough view
      (evaluator.evalSteps context steps env depth) := by
  refine Correspondence.steps (Correspondence.through view blind hidden)
    (.of_agrees ?_ (.refl env) depth) ⟨fun _ => rfl, blind.contexts found⟩
  exact fun step _ _ _ agrees depth => alikeThrough_of_agrees blind hidden agrees step.value depth

/-- What a name is bound to makes no difference to steps that it is not free in. -/
theorem alikeThrough_evalSteps_bind {tag : String} {context : Context β}
    (found : evaluator.context? tag = some context) {name : String}
    {steps : List (Step (Expr β))} (unread : name ∉ Expr.freeNamesSteps steps) (value : Value β)
    (env : Env β) (depth : Nat) :
    (evaluator.evalSteps context steps (env.bind name value) depth).AlikeThrough view
      (evaluator.evalSteps context steps env depth) := by
  have substituted : (Correspondence.through view blind hidden).OnSteps steps (env.bind name value)
      depth (Expr.substSteps name value steps) env depth :=
    .of_subst (Correspondence.through_self blind hidden) (fun step _ _ _ agrees depth =>
      Correspondence.of_subst _ (Correspondence.through_self blind hidden)
        (Correspondence.through_subst blind hidden name value) agrees step.value depth) (.refl _)
      depth
  rw [Expr.substSteps_eq_self (fun _ _ => Expr.subst_eq_self) unread] at substituted
  exact Correspondence.steps _ substituted ⟨fun _ => rfl, blind.contexts found⟩

end Evaluator

end Consequences

/-! ## What extended evaluators look at -/

/-- Counting is alike where all but the trace is looked at. -/
theorem Run.AlikeThrough.tally (name : String) :
    AlikeThrough Ledger.untraced (Run.tally name) (Run.tally name) := by
  intro ledger ledger' same
  refine ⟨rfl, ?_⟩
  change ({ ledger.untraced with uses := name :: ledger.untraced.uses } : Ledger) =
    { ledger'.untraced with uses := name :: ledger'.untraced.uses }
  rw [same]

omit [Payload β] in
/-- A counted context feeds runs that are alike to runs that are alike, where all but the trace is
looked at. -/
theorem ContextMode.alikeThrough_bind (mode : ContextMode) (tag : String) (value : Value β)
    {next next' : Value β → Run (Value β)}
    (alike : ∀ item, (next item).AlikeThrough Ledger.untraced (next' item)) :
    ((mode.context tag).bind value next).AlikeThrough Ledger.untraced
      ((mode.context tag).bind value next') := by
  refine Run.AlikeThrough.andThen (.tally tag) fun counted => ?_
  cases mode with
  | count => exact alike value
  | stop => exact .give value
  | twice =>
    exact (alike value).andThen fun first => (alike value).andThen fun second => .give _
  | wrap =>
    dsimp only
    split
    · exact alike _
    · exact .give _

namespace Evaluator.Blind

omit [Payload β]

variable {view : Ledger → γ}

/-- Defining a function that looks at no more keeps an evaluator as blind. -/
theorem define (blind : evaluator.Blind view) (name : String) {function : Function β}
    (alike : ∀ args, (function args).AlikeThrough view (function args)) :
    (evaluator.define name function).Blind view where
  functions {_ _} looked := by
    obtain rfl | there := eq_or_lookup_of_lookup_cons looked
    · exact alike
    · exact blind.functions there
  contexts := blind.contexts

/-- Registering a counted context keeps an evaluator blind to the trace. -/
theorem registerCounted (blind : evaluator.Blind Ledger.untraced) (tag : String)
    (mode : ContextMode) :
    (evaluator.register tag (mode.context tag)).Blind Ledger.untraced where
  functions := blind.functions
  contexts {_ _} looked := by
    obtain rfl | there := eq_or_lookup_of_lookup_cons looked
    · exact fun value _ _ alike => mode.alikeThrough_bind tag value alike
    · exact blind.contexts there

/-- Defining a function in the expression language keeps an evaluator blind to the trace. -/
theorem defineRecursive [Payload β] (blind : evaluator.Blind Ledger.untraced) (name : String)
    (parameters : List String) (body : Expr β) :
    (evaluator.defineRecursive name parameters body).Blind Ledger.untraced := by
  unfold Evaluator.defineRecursive
  generalize callLimit = fuel
  induction fuel with
  | zero => exact blind.define name fun args => .stop _
  | succ fuel ih =>
    exact blind.define name fun args => Run.AlikeThrough.andThen (.tally name) fun _ =>
      alikeThrough_of_agrees ih (fun _ _ _ => rfl) (.refl _) body 0

end Evaluator.Blind

/-! ## Whether an evaluator traces -/

variable {view : Ledger → γ} {first second : Evaluator β}

/-- Runs of two evaluators that are alike through a view that does not show the trace. Expressions
may be taken up side by side when they are the same and have a text. -/
def Correspondence.observed (alike : first.Alike view second) (hidden : HidesTrace view) :
    Correspondence first second where
  onRun run run' := run.AlikeThrough view run'
  onNode expression depth expression' depth' :=
    expression = expression' ∧ depth = depth' ∧ expression.text?.isSome
  catching := True
  asking _ _ _ := trivial
  attempting _ := trivial
  give := .give
  stop := .stop
  andThen alike after _ := .andThen alike after
  functions := alike.functions
  contexts := alike.contexts
  takeUp := by
    rintro expression depth _ _ run run' ⟨rfl, rfl, shown⟩ same
    by_cases beyond : first.Beyond depth
    · have beyond' : second.Beyond depth := by rwa [Evaluator.Beyond, ← alike.limit]
      rw [Evaluator.takeUp_beyond beyond, Evaluator.takeUp_beyond beyond', alike.limit]
      exact .give _
    · have within : ¬ second.Beyond depth := by rwa [Evaluator.Beyond, ← alike.limit]
      have ahead := Evaluator.alikeThrough_takeUp beyond (fun _ => hidden) (fun _ => shown) same
      exact (Evaluator.alikeThrough_takeUp within (fun _ => hidden) (fun _ => shown)
        ahead.symm).symm

namespace Evaluator

namespace Alike

/-- An expression without holes is evaluated alike by evaluators that are alike. -/
theorem alikeThrough_evalAt (alike : first.Alike view second) (hidden : HidesTrace view)
    {expression : Expr β} (filled : expression.Filled) (env : Env β) (depth : Nat) :
    (first.evalAt expression env depth).AlikeThrough view
      (second.evalAt expression env depth) :=
  (Correspondence.observed alike hidden).of_agrees_where (fun expression _ => expression.Filled)
    (fun filled => ⟨rfl, rfl, Expr.isSome_text?_of_filled filled⟩)
    (fun filled _ member => filled.inside _ (Expr.mem_parts_of_mem_placedParts member))
    (.refl env) filled

omit [Payload β] in
/-- Defining functions that do alike keeps evaluators alike. -/
theorem define (alike : first.Alike view second) (name : String) {function function' : Function β}
    (same : ∀ args, (function args).AlikeThrough view (function' args)) :
    (first.define name function).Alike view (second.define name function') where
  limit := alike.limit
  functions wanted := rel_lookup_cons same wanted (alike.functions wanted) name
  contexts := alike.contexts

/-- Defining a function in the expression language, in the same way, keeps evaluators alike but for
the trace. -/
theorem defineRecursive (alike : first.Alike Ledger.untraced second) (name : String)
    (parameters : List String) {body : Expr β} (filled : body.Filled) :
    (first.defineRecursive name parameters body).Alike Ledger.untraced
      (second.defineRecursive name parameters body) := by
  unfold Evaluator.defineRecursive
  generalize callLimit = fuel
  induction fuel with
  | zero => exact alike.define name fun args => .stop _
  | succ fuel ih =>
    exact alike.define name fun args => Run.AlikeThrough.andThen (.tally name) fun _ =>
      ih.alikeThrough_evalAt (fun _ _ => rfl) filled _ 0

omit [Payload β] in
/-- Registering the same counted context keeps evaluators alike but for the trace. -/
theorem registerCounted (alike : first.Alike Ledger.untraced second) (tag : String)
    (mode : ContextMode) :
    (first.register tag (mode.context tag)).Alike Ledger.untraced
      (second.register tag (mode.context tag)) where
  limit := alike.limit
  functions := alike.functions
  contexts wanted := rel_lookup_cons
    ⟨fun _ => rfl, fun value _ _ same => mode.alikeThrough_bind tag value same⟩ wanted
    (alike.contexts wanted) tag

end Alike

end Evaluator

end GrammarKit
