import GrammarKit.Host
import GrammarKit.Proofs.Invariant
/-!
# Exceptions end runs

An exception travels outward through whatever form it comes up in: arguments, bindings, conditions
and steps, the items of a list and the values fed to contexts. Where nothing asks for it, the first
expression to settle on an exception decides the run. After it only the expressions around it
settle, each on that exception; no other expression is taken up, no function is called, nothing is
fed to a context, and the exception is the result.
-/

namespace GrammarKit

variable {β : Type}

/-- Whether nothing at a form catches an exception: it is no attempt, and no case with a clause that
asks for one. -/
def Expr.Uncatching : Expr β → Prop
  | .attempt .. => False
  | .case _ clauses => ∀ clause ∈ clauses, clause.pattern.asksForException = false
  | _ => True

/-- Whether the first expression to settle on an exception decides what happens from there on and
what the result is. -/
def ShortCircuits (events : List (Event β)) (result : Except EvalFault (Value β)) : Prop :=
  ∀ before expression raised after,
    events = before ++ .settled expression (.exception raised) :: after →
      (∀ event ∈ after, ∃ outer, event = .settled outer (.exception raised)) ∧
        result = .ok (.exception raised)

namespace ShortCircuits

variable {events later : List (Event β)} {result : Except EvalFault (Value β)} {value : Value β}

/-- When nothing happens nothing settles. -/
theorem nil (result : Except EvalFault (Value β)) : ShortCircuits [] result :=
  fun _ _ _ _ same => absurd same (by simp)

/-- Nothing is decided by what settles no expression. -/
theorem cons (kept : ShortCircuits events result) {event : Event β}
    (unsettling : ∀ expression value, event ≠ .settled expression value) :
    ShortCircuits (event :: events) result := by
  intro before expression raised after same
  cases before with
  | nil => exact absurd (List.cons.inj same).1 (unsettling expression _)
  | cons first before => exact kept before expression raised after (List.cons.inj same).2

/-- A run whose value is no exception leaves what comes after undecided. -/
theorem append (kept : ShortCircuits events (.ok value)) (ordinary : value.isException = false)
    (next : ShortCircuits later result) : ShortCircuits (events ++ later) result := by
  intro before expression raised after same
  obtain ⟨middle, -, rest⟩ | ⟨middle, found, rest⟩ := List.append_eq_append_iff.mp same
  · exact next middle expression raised after rest
  · cases middle with
    | nil => exact next [] expression raised after rest.symm
    | cons event middle =>
      -- The exception would have been settled on before, and so be the value.
      obtain ⟨rfl, -⟩ := List.cons.inj rest
      obtain rfl : value = .exception raised :=
        Except.ok.inj (kept before expression raised middle found).2
      exact Bool.noConfusion ordinary

/-- An expression settles on the value of a run. -/
theorem settle (kept : ShortCircuits events (.ok value)) (expression : Expr β) :
    ShortCircuits (events ++ [.settled expression value]) (.ok value) := by
  intro before inner raised after same
  obtain rfl | ⟨initial, last, rfl⟩ := List.eq_nil_or_concat' after
  · obtain ⟨-, settled⟩ := List.append_inj' same rfl
    obtain ⟨-, rfl⟩ := Event.settled.inj (List.cons.inj settled).1
    exact ⟨List.forall_mem_nil _, rfl⟩
  · rw [← List.cons_append, ← List.append_assoc] at same
    obtain ⟨earlier, settled⟩ := List.append_inj' same rfl
    obtain ⟨decided, gives⟩ := kept before inner raised initial earlier
    obtain rfl : value = .exception raised := Except.ok.inj gives
    obtain rfl : _ = last := (List.cons.inj settled).1
    exact ⟨List.forall_mem_append.mpr
      ⟨decided, List.forall_mem_singleton.mpr ⟨expression, rfl⟩⟩, rfl⟩

end ShortCircuits

namespace Invariant

variable [Payload β]

/-- The invariant of expressions that catch nothing, whatever values are around. -/
def shortCircuit {evaluator : Evaluator β} (standard : evaluator.contexts = Context.builtIn) :
    Invariant evaluator where
  standard := standard
  good _ := True
  inherited := Value.inherited_true
  onNode := Expr.Uncatching
  literal _ := trivial
  catching := False
  asking here inside asks := Bool.noConfusion ((here _ inside).symm.trans asks)
  attempting here := here
  onEnd := ShortCircuits
  outward _ := .given trivial
  give _ := .nil _
  stop _ _ _ := .nil _
  untraceable _ _ := .nil _
  andThen kept ordinary next := kept.append (Bool.eq_false_iff.mpr ordinary) next
  call _ _ _ := .cons (.nil _) nofun
  feed _ kept := kept.cons nofun
  takeUp _ kept := kept.cons nofun
  settle kept := kept.settle _

end Invariant

namespace Evaluator

variable [Payload β]

/-- An exception that nothing catches ends the run. In an evaluator with the built-in contexts and
any functions, an evaluation that gives a value starts with taking up the expression and ends with
settling it on the value. When it is of an expression that catches nothing and some expression
within settles on an exception, what happens afterwards is only that the expressions around it
settle on the same exception, and that exception is the result. -/
theorem exception_ends_run {evaluator : Evaluator β}
    (standard : evaluator.contexts = Context.builtIn) {expression : Expr β}
    (uncaught : expression.Every Expr.Uncatching) (env : Env β) (depth : Nat) (ledger : Ledger) :
    (evaluator.watchAt expression env depth).plain = evaluator.evalAt expression env depth ∧
      (∀ value, (evaluator.evalAt expression env depth).outcome ledger = .ok value →
        ∃ inner, (evaluator.watchAt expression env depth ledger).events =
          .takenUp expression env depth :: (inner ++ [.settled expression value])) ∧
      ∀ before inner raised after,
        (evaluator.watchAt expression env depth ledger).events =
            before ++ .settled inner (.exception raised) :: after →
          (∀ event ∈ after, ∃ outer, event = .settled outer (.exception raised)) ∧
            (evaluator.evalAt expression env depth).outcome ledger = .ok (.exception raised) := by
  have watching := plain_watchAt standard expression env depth
  have kept := (Invariant.shortCircuit standard).onRun_watchAt expression uncaught
    (fun _ _ => trivial : env.Binds fun _ => True) depth ledger
  rw [← watching]
  exact ⟨rfl, fun value given => events_watchAt given, kept⟩

/-- Division by each item of a list, the second of which is zero. -/
def dividing : Expr Host :=
  .bind "list" (.lit (.list [.int 1, .int 0, .int 2])) "n"
    (.lift "list" (.call "divides" [.int 6, .var "n"]))

/-- The item after a zero is not divided by any more. -/
theorem exception_ends_run_dividing :
    (new 50 true : Evaluator Host).contexts = Context.builtIn ∧
      dividing.Every Expr.Uncatching ∧
      ∃ before after, before.length = 20 ∧ after.length = 2 ∧
        ((new 50 true).watchAt dividing .empty 0 {}).events =
          before ++ .settled (.call "divides" [.int 6, .var "n"]) Function.divisionByZero :: after ∧
        (∀ event ∈ after, ∃ outer, event = .settled outer Function.divisionByZero) ∧
        ((new 50 true).evalAt dividing .empty 0).outcome {} = .ok Function.divisionByZero := by
  have called : (Expr.call "divides" [.int 6, .var "n"] : Expr Host).Every Expr.Uncatching :=
    .intro trivial (List.forall_mem_cons.mpr
      ⟨.leaf rfl trivial, List.forall_mem_singleton.mpr (.leaf rfl trivial)⟩)
  have uncaught : dividing.Every Expr.Uncatching :=
    .intro trivial (List.forall_mem_cons.mpr ⟨.leaf rfl trivial, List.forall_mem_singleton.mpr
      (.intro trivial (List.forall_mem_singleton.mpr called))⟩)
  have split : ((new 50 true).watchAt dividing .empty 0 {}).events =
      ((new 50 true).watchAt dividing .empty 0 {}).events.take 20 ++
        .settled (.call "divides" [.int 6, .var "n"]) Function.divisionByZero ::
          ((new 50 true).watchAt dividing .empty 0 {}).events.drop 21 := rfl
  have ended := (exception_ends_run rfl uncaught .empty 0 {}).2.2 _ _ _ _ split
  exact ⟨rfl, uncaught, _, _, rfl, rfl, split, ended⟩

end Evaluator

end GrammarKit
