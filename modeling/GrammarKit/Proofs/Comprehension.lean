import GrammarKit.Host
import GrammarKit.Proofs.Block
import GrammarKit.Proofs.Meaning
/-!
# Blocks of lists as comprehensions

A block in the list context whose last step lifts a value is a list comprehension. Choosing an item
for each step, in lexicographic order, makes runs (`Evaluator.rows`). When all of them come to a
value, the block is the list of these values in the same order, and otherwise it ends as the first
run does that comes to none (`Evaluator.outcome_comprehension`). What items there are to choose from
may depend on the items chosen before, so the runs are counted off by recursion over the steps.
-/

namespace GrammarKit

variable {β : Type}

/-- Putting together the lists of several results is taking all results in order. -/
theorem Feed.collect_mapM_id (results : Value β → List (Meaning β (Value β)))
    (items : List (Value β)) :
    collect (fun item => Value.list <$> (results item).mapM id) items =
      (items.flatMap results).mapM id := by
  induction items with
  | nil => rfl
  | cons item items ih =>
    have here : Value.list <$> (results item).mapM id >>= Value.items = (results item).mapM id := by
      cases (results item).mapM id <;> rfl
    rw [collect, here, ih, List.flatMap_cons, List.mapM_append]

/-- The list context follows its plan. -/
theorem Context.list_eq_context : (Context.list : Context β) = Plan.list.context :=
  Option.some.inj (lookup_builtIn_eq_map "list")

/-- The binds that steps before a last one stand for. -/
theorem Expr.nested_concat (tag : String) (first last : Step (Expr β))
    (others : List (Step (Expr β))) :
    nested tag (first :: (others ++ [last])) =
      .bind tag first.value first.name (nested tag (others ++ [last])) := by
  cases others <;> rfl

namespace Evaluator

variable [Payload β]

/-- What the runs of a comprehension come to, in lexicographic order of the items that are chosen
for its steps. A step that gives no list makes a run that comes to nothing. -/
def rows (evaluator : Evaluator β) (body : Expr β) :
    List (Step (Expr β)) → Env β → List (Meaning β (Value β))
  | [], env => [evaluator.meaning body env]
  | step :: others, env =>
    match evaluator.meaning step.value env >>= Value.items with
    | .ok items => items.flatMap fun item =>
      rows evaluator body others (if step.name = "" then env else env.bind step.name item)
    | .error stop => [.error stop]

variable {evaluator : Evaluator β} (oblivious : evaluator.Oblivious)
  (unlimited : ¬ 0 < evaluator.maxDepth)

include oblivious unlimited

/-- A block means what the binds mean that it stands for. -/
theorem meaning_block {tag : String} {steps : List (Step (Expr β))} (nonempty : steps ≠ [])
    (known : (evaluator.context? tag).isSome)
    (shown : evaluator.trace = true → ∀ step ∈ steps, step.value.text?.isSome) (env : Env β) :
    evaluator.meaning (.block tag steps) env = evaluator.meaning (.nested tag steps) env := by
  obtain ⟨first, others, rfl⟩ := List.exists_cons_of_ne_nil nonempty
  have alike := alikeThrough_nested oblivious.blind (fun _ _ _ => rfl) unlimited tag first others
    (fun _ => known) shown env 0
  exact congrArg Meaning.ofOutcome (alike {} {} rfl).1

/-- Binds of lists down to a lift mean the list of what their runs come to. -/
theorem meaning_nested (governs : evaluator.context? "list" = some .list)
    (steps : List (Step (Expr β))) (name : String) (body : Expr β) (env : Env β) :
    evaluator.meaning (.nested "list" (steps ++ [⟨name, .lift "list" body⟩])) env =
      Value.list <$> (evaluator.rows body steps env).mapM id := by
  rw [Context.list_eq_context] at governs
  induction steps generalizing env with
  | nil =>
    rw [List.nil_append, Expr.nested, meaning_lift oblivious unlimited governs, rows,
      List.mapM_cons]
    cases evaluator.meaning body env <;> rfl
  | cons step others ih =>
    rw [List.cons_append, Expr.nested_concat, meaning_bind oblivious unlimited governs, rows]
    simp only [ih]
    cases evaluator.meaning step.value env with
    | error stop => rfl
    | ok value =>
      cases value with
      | list items => exact congrArg (Value.list <$> ·) (Feed.collect_mapM_id _ items)
      | _ => rfl -- Nothing is chosen from what is no list.

/-- A block of lists whose last step lifts a value is a list comprehension, whatever the steps
before it are and whichever names they set. When every run comes to a value, the block is the list
of these values, in lexicographic order of the items chosen; otherwise it ends as the first run does
that comes to none, which is with what was raised, with a type error about what is no list, or with
a fault. One of the two is always the case. -/
theorem outcome_comprehension (governs : evaluator.context? "list" = some .list)
    (steps : List (Step (Expr β))) (name : String) (body : Expr β)
    (shown : evaluator.trace = true → ∀ step ∈ steps, step.value.text?.isSome) (env : Env β)
    (depth : Nat) (ledger : Ledger) :
    (∀ values : List (Value β), evaluator.rows body steps env = values.map Except.ok →
      (evaluator.evalAt (.block "list" (steps ++ [⟨name, .lift "list" body⟩])) env depth).outcome
        ledger = .ok (.list values)) ∧
    (∀ (before : List (Value β)) (stop : Stop β) (after : List (Meaning β (Value β))),
      evaluator.rows body steps env = before.map Except.ok ++ Except.error stop :: after →
      (evaluator.evalAt (.block "list" (steps ++ [⟨name, .lift "list" body⟩])) env depth).outcome
        ledger = stop.outcome) ∧
    ((∃ values : List (Value β), evaluator.rows body steps env = values.map Except.ok) ∨
      ∃ (before : List (Value β)) (stop : Stop β) (after : List (Meaning β (Value β))),
        evaluator.rows body steps env =
          before.map Except.ok ++ Except.error stop :: after) := by
  have known : (evaluator.context? "list").isSome := by rw [governs]; rfl
  have shownAll (traced : evaluator.trace = true) :
      ∀ step ∈ steps ++ [⟨name, .lift "list" body⟩], step.value.text?.isSome :=
    List.forall_mem_append.mpr ⟨shown traced, List.forall_mem_singleton.mpr rfl⟩
  have means : Meaning.ofOutcome ((evaluator.evalAt
      (.block "list" (steps ++ [⟨name, .lift "list" body⟩])) env depth).outcome ledger) =
        Value.list <$> (evaluator.rows body steps env).mapM id := by
    rw [← meaning_nested oblivious unlimited governs steps name body env,
      ← meaning_block oblivious unlimited (by simp) known shownAll]
    exact means_evalAt oblivious unlimited _ env depth ledger
  refine ⟨?_, ?_, Meaning.values_or_stop _⟩
  · intro values all
    rw [all, Meaning.mapM_id_of_values] at means
    exact (Meaning.eq_ok_of_ofOutcome means).1
  · intro before stop after first
    rw [first, Meaning.mapM_id_of_stop] at means
    exact Meaning.eq_outcome_of_ofOutcome means

end Evaluator

/-! ## Blocks of two steps -/

namespace Evaluator

/-- A list of numbers as an expression. -/
def numbers (items : List Int64) : Expr Host := .lit (.list (items.map .int))

/-- Two steps of which the second gives one of two things, depending on what the first one chose. -/
def dependent (yes no : Expr Host) : List (Step (Expr Host)) :=
  [⟨"x", numbers [1, 2]⟩, ⟨"y", .ifThenElse (.call "equal_to" [.var "x", .int 1]) yes no⟩]

/-- A sum of what two steps chose. -/
def chosenSum : Expr Host := .call "plus" [.var "x", .var "y"]

/-- The second step has two items for the first choice, and for the second choice one item or
something that is no list. -/
theorem outcome_comprehension_dependent :
    (new 0 true : Evaluator Host).Oblivious ∧ ¬ 0 < (new 0 true : Evaluator Host).maxDepth ∧
      (new 0 true : Evaluator Host).context? "list" = some .list ∧
      (∀ no, ∀ step ∈ dependent (numbers [10, 20]) no, step.value.text?.isSome) ∧
      ((new 0 true).evalAt (.block "list" (dependent (numbers [10, 20]) (numbers [30]) ++
        [⟨"", .lift "list" chosenSum⟩])) .empty 0).outcome {} =
        .ok (.list [.int 11, .int 21, .int 32]) ∧
      ((new 0 true).evalAt (.block "list" (dependent (numbers [10, 20]) (.int 30) ++
        [⟨"", .lift "list" chosenSum⟩])) .empty 0).outcome {} =
        .ok (.typeError "bind<list>" [.int 30]) := by
  have oblivious : (new 0 true : Evaluator Host).Oblivious := oblivious_new 0 true
  have unlimited : ¬ 0 < (new 0 true : Evaluator Host).maxDepth := by decide
  have shown (no : Expr Host) :
      ∀ step ∈ dependent (numbers [10, 20]) no, step.value.text?.isSome := by
    simp only [dependent, List.forall_mem_cons, List.not_mem_nil, false_implies, implies_true]
    exact ⟨rfl, rfl, trivial⟩
  obtain ⟨values, -, -⟩ := outcome_comprehension oblivious unlimited rfl
    (dependent (numbers [10, 20]) (numbers [30])) "" chosenSum (fun _ => shown _) .empty 0 {}
  obtain ⟨-, stops, -⟩ := outcome_comprehension oblivious unlimited rfl
    (dependent (numbers [10, 20]) (.int 30)) "" chosenSum (fun _ => shown _) .empty 0 {}
  exact ⟨oblivious, unlimited, rfl, shown, values [.int 11, .int 21, .int 32] rfl,
    stops [.int 11, .int 21] (.notAList (.int 30)) [] rfl⟩

/-- Blocks of lists end otherwise in two ways. A fault in a run is a fault of the block, which is
then neither a list nor an exception, and under a trace a hole among the steps is a fault before
anything is chosen, also behind a step that raises. -/
theorem not_outcome_comprehension_of_faults :
    (¬ ∀ (steps : List (Step (Expr Host))) (body : Expr Host), ∃ value,
      ((new 0 false).evalAt (.block "list" (steps ++ [⟨"", .lift "list" body⟩])) .empty 0).outcome
        {} = .ok value) ∧
    (¬ ∀ (steps : List (Step (Expr Host))) (body : Expr Host) (raised : Value Host),
      (new 0 true).rows body steps .empty = [.error (.raised raised)] →
      ((new 0 true).evalAt (.block "list" (steps ++ [⟨"", .lift "list" body⟩])) .empty 0).outcome
        {} = .ok (.exception raised)) := by
  constructor
  · intro ends
    obtain ⟨value, ended⟩ := ends [⟨"x", .call "items" []⟩] (.var "x")
    have undefined : (Except.error (.undefinedFunction "items") : Except EvalFault (Value Host)) =
        .ok value := ended
    cases undefined
  · intro ends
    have untraceable : (Except.error .untraceable : Except EvalFault (Value Host)) =
        .ok (.exception (.int 1)) :=
      ends [⟨"x", .raise (.int 1)⟩, ⟨"y", .absent⟩] (.int 2) (.int 1) rfl
    cases untraceable

end Evaluator

end GrammarKit
