import GrammarKit.Host
import GrammarKit.Proofs.Invariant
/-!
# Where exceptions may be

Exceptions are values, but they are never part of other values. As long as the literals of an
expression and the values bound around it hold none, exceptions stay outermost: every value that is
bound, given to a function or fed to a context is free of them, and so is the result, or what it
raises. An expression without holes that refers to what the evaluator knows has a result, too.
-/

namespace GrammarKit

variable {β : Type}

namespace Value

mutual

/-- Whether a value neither is nor holds an exception, unless it is inside a box. -/
def exceptionFree : Value β → Bool
  | .data _ _ args => exceptionFreeAll args
  | .list items => exceptionFreeAll items
  | .exception _ => false
  | _ => true

/-- Whether values neither are nor hold exceptions. -/
def exceptionFreeAll : List (Value β) → Bool
  | [] => true
  | first :: others => exceptionFree first && exceptionFreeAll others

end

/-- Values are free of exceptions when each of them is. -/
theorem exceptionFreeAll_iff (values : List (Value β)) :
    exceptionFreeAll values = true ↔ ∀ value ∈ values, value.exceptionFree = true := by
  induction values with
  | nil => simp [exceptionFreeAll]
  | cons first others ih => rw [exceptionFreeAll, Bool.and_eq_true, ih, List.forall_mem_cons]

/-- Freedom of exceptions is a matter of the children. -/
theorem inherited_exceptionFree : Inherited fun value : Value β => value.exceptionFree = true where
  scalar {value} scalar := by
    cases value with
    | data | list | exception => exact absurd scalar Shape.noConfusion
    | _ => rfl
  data := by simp only [exceptionFree, exceptionFreeAll_iff, implies_true]
  list := by simp only [exceptionFree, exceptionFreeAll_iff, implies_true]
  exception free := Bool.noConfusion free

/-- Whether a value is free of exceptions or the exception of such a value. -/
abbrev ExceptionOutermost (value : Value β) : Prop :=
  Outward (fun value => value.exceptionFree = true) value

end Value

/-- Whether a literal is free of exceptions. -/
def Expr.LiteralFree : Expr β → Prop
  | .lit value => value.exceptionFree = true
  | _ => True

/-- Whether nothing that happens is about an exception inside a value: values that are bound, given
to functions and fed to contexts are free of exceptions, and expressions settle on such values or
raise them. -/
def Event.ExceptionOutermost : Event β → Prop
  | .takenUp _ env _ => env.Binds fun value => value.exceptionFree = true
  | .settled _ value => value.ExceptionOutermost
  | .called _ args => ∀ arg ∈ args, arg.exceptionFree = true
  | .fed _ value => value.exceptionFree = true

variable [Payload β]

namespace Evaluator

/-- An expression without holes has a text, so tracing it is no fault. -/
theorem isSome_text?_of_knows {evaluator : Evaluator β} {expression : Expr β}
    (known : expression.Every evaluator.Knows) : expression.text?.isSome := by
  refine Expr.isSome_text?_of_filled (known.mono ?_)
  intro expression knows
  cases expression with
  | absent => exact knows.elim
  | _ => rfl

end Evaluator

namespace Invariant

open Evaluator

/-- The invariant of evaluators with the built-in functions and contexts: exceptions are outermost,
and when everything is known, runs have a result. -/
def exceptionOutermost (maxDepth : Int64) (trace : Bool) (known : Prop) :
    Invariant (new maxDepth trace : Evaluator β) where
  standard := contexts_new maxDepth trace
  good value := value.exceptionFree = true
  inherited := Value.inherited_exceptionFree
  onNode expression :=
    expression.LiteralFree ∧ (known → (new maxDepth trace : Evaluator β).Knows expression)
  literal here := here.1
  catching := True
  asking _ _ _ := trivial
  attempting _ := trivial
  onEnd events result :=
    (∀ event ∈ events, event.ExceptionOutermost) ∧
      (∀ value, result = .ok value → value.ExceptionOutermost) ∧
      (known → ∃ value, result = .ok value)
  outward kept := kept.2.1 _ rfl
  give outward := ⟨List.forall_mem_nil _, by rintro _ ⟨⟩; exact outward, fun _ => ⟨_, rfl⟩⟩
  stop here unknown fault :=
    ⟨List.forall_mem_nil _, nofun, fun known => absurd (here.2 known) unknown⟩
  untraceable every textless := by
    refine ⟨List.forall_mem_nil _, nofun, fun known => ?_⟩
    have shown := isSome_text?_of_knows (every.mono fun _ here => here.2 known)
    rw [textless] at shown
    exact Bool.noConfusion shown
  andThen kept _ next := ⟨List.forall_mem_append.mpr ⟨kept.1, next.1⟩, next.2⟩
  call found free ledger := by
    obtain ⟨gives, member, rfl⟩ := exists_of_function?_new found
    have outward := (Function.gives_of_mem_pureBuiltIn member _).outward
      Value.inherited_exceptionFree free
    exact ⟨List.forall_mem_singleton.mpr free, fun value same => Except.ok.inj same ▸ outward,
      fun _ => ⟨_, rfl⟩⟩
  feed free kept := ⟨List.forall_mem_cons.mpr ⟨free, kept.1⟩, kept.2⟩
  takeUp bound kept := ⟨List.forall_mem_cons.mpr ⟨bound, kept.1⟩, kept.2⟩
  settle kept := ⟨List.forall_mem_append.mpr
    ⟨kept.1, List.forall_mem_singleton.mpr (kept.2.1 _ rfl)⟩, kept.2⟩

end Invariant

namespace Evaluator

/-- Exceptions never end up inside other values. An evaluator with the built-in functions and
contexts that evaluates an expression without exceptions in its literals, in an environment without
exceptions, gives a value without exceptions or raises one; throughout the run every environment
binds, every function is given and every context is fed only values without exceptions. When the
expression has no holes and the evaluator knows everything that it refers to, the run has a
result. -/
theorem new_keeps_exceptions_outermost (maxDepth : Int64) (trace : Bool) {expression : Expr β}
    (literals : expression.Every Expr.LiteralFree) {env : Env β}
    (bound : env.Binds fun value => value.exceptionFree = true) (depth : Nat) (ledger : Ledger) :
    ((new maxDepth trace).watchAt expression env depth).plain =
        (new maxDepth trace).evalAt expression env depth ∧
      (∀ value, ((new maxDepth trace).evalAt expression env depth).outcome ledger = .ok value →
        value.ExceptionOutermost ∧
          ∃ inner, ((new maxDepth trace).watchAt expression env depth ledger).events =
            .takenUp expression env depth :: (inner ++ [.settled expression value])) ∧
      (∀ event ∈ ((new maxDepth trace).watchAt expression env depth ledger).events,
        event.ExceptionOutermost) ∧
      (expression.Every (new maxDepth trace).Knows →
        ∃ value,
          ((new maxDepth trace).evalAt expression env depth).outcome ledger = .ok value) := by
  have standard : (new maxDepth trace : Evaluator β).contexts = Context.builtIn := rfl
  rw [← plain_watchAt standard expression env depth]
  have kept := (Invariant.exceptionOutermost maxDepth trace False).onRun_watchAt expression
    (literals.mono fun _ here => ⟨here, False.elim⟩) bound depth ledger
  refine ⟨rfl, fun value given => ⟨kept.2.1 value given, events_watchAt given⟩, kept.1,
    fun knows => ?_⟩
  have all := (Invariant.exceptionOutermost maxDepth trace True).onRun_watchAt expression
    (literals.and (knows.mono fun _ known _ => known)) bound depth ledger
  exact all.2.2 trivial

/-- A division by zero that is caught and wrapped by what catches it. -/
def wrapping : Expr Host :=
  .attempt (.letIn "q" (.call "divides" [.var "x", .int 0]) (.var "q"))
    [⟨"e", .call "is_tag" [.var "e", .lit (.symbol "division_by_zero")],
      .construct "caught" "" [.var "e"]⟩]

/-- What was raised is wrapped, and not the exception. -/
theorem new_keeps_exceptions_outermost_wrapping :
    wrapping.Every Expr.LiteralFree ∧
      ((Env.empty : Env Host).bind "x" (.int 1)).Binds (fun value => value.exceptionFree = true) ∧
      wrapping.Every (new 50 true).Knows ∧
      (∀ event ∈ ((new 50 true).watchAt wrapping (Env.empty.bind "x" (.int 1)) 0 {}).events,
        event.ExceptionOutermost) ∧
      ((new 50 true).evalAt wrapping (Env.empty.bind "x" (.int 1)) 0).outcome {} =
        .ok (.data "caught" "" [.data "division_by_zero" "" []]) := by
  have both : wrapping.Every fun expression =>
      expression.LiteralFree ∧ (new 50 true).Knows expression := by
    refine .intro ⟨trivial, trivial⟩ (List.forall_mem_cons.mpr ⟨?body, List.forall_mem_cons.mpr
      ⟨?test, List.forall_mem_singleton.mpr ?handler⟩⟩)
    case body =>
      refine .intro ⟨trivial, trivial⟩ (List.forall_mem_cons.mpr
        ⟨?division, List.forall_mem_singleton.mpr (.leaf rfl ⟨trivial, trivial⟩)⟩)
      exact .intro ⟨trivial, rfl⟩ (List.forall_mem_cons.mpr ⟨.leaf rfl ⟨trivial, trivial⟩,
        List.forall_mem_singleton.mpr (.leaf rfl ⟨rfl, trivial⟩)⟩)
    case test =>
      exact .intro ⟨trivial, rfl⟩ (List.forall_mem_cons.mpr ⟨.leaf rfl ⟨trivial, trivial⟩,
        List.forall_mem_singleton.mpr (.leaf rfl ⟨rfl, trivial⟩)⟩)
    case handler =>
      exact .intro ⟨trivial, trivial⟩ (List.forall_mem_singleton.mpr
        (.leaf rfl ⟨trivial, trivial⟩))
  have literals := both.mono fun _ here => here.1
  have bound : ((Env.empty : Env Host).bind "x" (.int 1)).Binds
      fun value => value.exceptionFree = true := Env.Binds.empty.bind "x" rfl
  have kept := new_keeps_exceptions_outermost 50 true literals bound 0 {}
  exact ⟨literals, bound, both.mono fun _ here => here.2, kept.2.2.1, rfl⟩

end Evaluator

end GrammarKit
