import GrammarKit.Host
import GrammarKit.Proofs.Correspondence
import GrammarKit.Proofs.Feed
import GrammarKit.Proofs.Run
import GrammarKit.Proofs.ShortCircuit
/-!
# The limit on nesting

Evaluation takes up expressions at depths: the parts of an expression one level below it, and each
step of a block one level below the step before. How many levels an expression needs can be read off
it (`Expr.nesting`), and a limit that leaves it as many changes nothing
(`Evaluator.evalAt_limitedTo_of_nesting_le`). A limit that leaves it fewer may cut a part of its
evaluation short. What is then raised is an exception like any other, so where nothing catches it,
it is the result, and no other result differs from that without a limit
(`Evaluator.limit_fails_loudly`).

Both are about two runs of the same expression, and each is a correspondence between the evaluator
with the limit and the one without.
-/

namespace GrammarKit

variable {β : Type}

namespace Expr

/-- Whether an expression is evaluated without evaluating another: literals, names and holes. -/
def isLeaf : Expr β → Bool
  | .absent | .lit _ | .var _ => true
  | _ => false

/-- How many levels below an expression its evaluation may get: none for a leaf, and otherwise one
more than below its parts, where a step of a block stands as many levels lower as there are steps
before it. -/
def nesting (expression : Expr β) : Nat :=
  if expression.isLeaf then 0
  else
    (expression.placedParts.attach.map fun placed =>
      nesting placed.val.1 + placed.val.2).max?.getD 0 + 1
termination_by sizeOf expression
decreasing_by exact sizeOf_part_lt (mem_parts_of_mem_placedParts placed.property)

variable {expression : Expr β}

/-- Leaves have nothing below them. -/
theorem nesting_eq_zero (leaf : expression.isLeaf = true) : expression.nesting = 0 := by
  rw [nesting, if_pos leaf]

/-- Any other expression is nested one level more than its parts where they stand. -/
theorem nesting_eq_succ (branching : expression.isLeaf = false) :
    expression.nesting =
      (expression.placedParts.map fun placed =>
        placed.1.nesting + placed.2).max?.getD 0 + 1 := by
  rw [nesting, branching, if_neg Bool.false_ne_true]
  let level (placed : Expr β × Nat) : Nat := placed.1.nesting + placed.2
  have detached : (expression.placedParts.attach.map fun placed => level placed.val) =
      expression.placedParts.map level := List.attach_map_val
  exact congrArg (fun levels => levels.max?.getD 0 + 1) detached

/-- A part is nested less deeply than its expression, by as many levels as it stands below. -/
theorem nesting_part_lt {placed : Expr β × Nat} (member : placed ∈ expression.placedParts) :
    placed.1.nesting + placed.2 < expression.nesting := by
  cases branching : expression.isLeaf with
  | true =>
    cases expression with
    | absent | lit | var => exact absurd member List.not_mem_nil
    | _ => exact Bool.noConfusion branching
  | false =>
    rw [nesting_eq_succ branching]
    exact Nat.lt_succ_of_le (List.le_max?_getD_of_mem (List.mem_map_of_mem member))

end Expr

variable [Payload β]

namespace Correspondence

variable (evaluator : Evaluator β) (limit : Int64)

/-- Equal runs with and without a limit, within the limit. -/
def withinLimit : Correspondence (evaluator.limitedTo limit) (evaluator.limitedTo 0) :=
  .equal rfl rfl
    (fun expression depth expression' depth' =>
      expression = expression' ∧ depth = depth' ∧ (depth : Int) ≤ limit.toInt) <| by
    rintro expression depth _ _ ⟨rfl, rfl, within⟩ run
    exact Evaluator.takeUp_limitedTo (fun beyond => absurd beyond.2 (Int.not_lt.mpr within)) run

variable {evaluator}

/-- Runs with and without a limit of expressions that catch nothing: equal unless the limited one
ends with the limit exceeded. -/
def upToLimit (standard : evaluator.contexts = Context.builtIn) :
    Correspondence (evaluator.limitedTo limit) (evaluator.limitedTo 0) where
  onRun := Run.EqUnless (Evaluator.limitExceeded limit)
  onNode expression depth expression' depth' :=
    expression = expression' ∧ depth = depth' ∧ expression.Uncatching
  catching := False
  asking here inside asks := Bool.noConfusion ((here.2.2 _ inside).symm.trans asks)
  attempting here := here.2.2
  give _ := .refl _
  stop _ := .refl _
  andThen same after passed := .andThen same after ((passed.resolve_right id) _)
  functions name := rel_self fun function _ args => .refl (function args)
  contexts tag := by
    refine rel_self fun context found => ⟨fun value => rfl, fun value _ _ same => ?_⟩
    have member : (tag, context) ∈ Context.builtIn := standard ▸ mem_of_lookup found
    obtain ⟨plan, rfl⟩ := Context.exists_plan_of_mem_builtIn member
    exact (plan.feed value).run_related (fun _ => .refl _)
      (fun same after passed => .andThen same after (passed _)) same
  takeUp := by
    rintro expression depth _ _ run run' ⟨rfl, rfl, -⟩ same
    by_cases beyond : (evaluator.limitedTo limit).Beyond depth
    · rw [Evaluator.takeUp_beyond beyond]
      exact .given _
    rw [Evaluator.takeUp_limitedTo beyond]
    exact Evaluator.eqUnless_takeUp same

end Correspondence

namespace Evaluator

variable (evaluator : Evaluator β)

/-- A limit that an expression fits in makes no difference. In any evaluator, with or without a
trace, an expression whose nesting below the depth it is taken up at stays within the limit is
evaluated by the same run as without a limit: the same value or fault from every ledger, and the
same ledger afterwards. -/
theorem evalAt_limitedTo_of_nesting_le {limit : Int64} {expression : Expr β} {depth : Nat}
    (fits : ((depth + expression.nesting : Nat) : Int) ≤ limit.toInt) (env : Env β) :
    (evaluator.limitedTo limit).evalAt expression env depth =
      (evaluator.limitedTo 0).evalAt expression env depth := by
  refine (Correspondence.withinLimit evaluator limit).of_agrees_where
    (fun expression depth => ((depth + expression.nesting : Nat) : Int) ≤ limit.toInt)
    (fun {expression depth} fits => ⟨rfl, rfl, by omega⟩) ?_ (.refl env) fits
  intro expression depth fits placed member
  have lower := Expr.nesting_part_lt member
  omega

/-- Squares of the successors of 1 and 2, in steps the last of which stands two levels down. -/
def squaring : Expr Host :=
  .block "list" [⟨"a", .lit (.list [.int 1, .int 2])⟩,
    ⟨"b", .lift "list" (.call "plus" [.var "a", .int 1])⟩,
    ⟨"", .lift "list" (.call "times" [.var "b", .var "b"])⟩]

/-- The squares are nested five levels deep. -/
theorem nesting_squaring : squaring.nesting = 5 := by
  simp (disch := decide) only [squaring, Expr.nesting_eq_succ, Expr.nesting_eq_zero,
    Expr.placedParts, Expr.parts, Expr.int, List.map, List.zipIdx, List.max?, List.foldl,
    Option.getD]
  decide

/-- The squares just fit in a limit of five levels. -/
theorem evalAt_limitedTo_of_nesting_le_squaring :
    ((0 + squaring.nesting : Nat) : Int) ≤ (5 : Int64).toInt ∧
      ((new 9 true).limitedTo 5).evalAt squaring .empty 0 =
        ((new 9 true).limitedTo 0).evalAt squaring .empty 0 ∧
      (((new 9 true).limitedTo 5).evalAt squaring .empty 0).outcome {} =
        .ok (.list [.int 4, .int 9]) := by
  have fits : ((0 + squaring.nesting : Nat) : Int) ≤ (5 : Int64).toInt := by
    rw [nesting_squaring]
    decide
  exact ⟨fits, evalAt_limitedTo_of_nesting_le (new 9 true) fits .empty, rfl⟩

variable {evaluator}

/-- A limit that an expression does not fit in shows. In an evaluator with the built-in contexts and
any functions, an expression that catches nothing has, under a limit, either the exception that the
limit is exceeded as its result, or the same value or fault and the same ledger afterwards as
without a limit; no third result can come of it. -/
theorem limit_fails_loudly (standard : evaluator.contexts = Context.builtIn)
    {expression : Expr β} (uncaught : expression.Every Expr.Uncatching) (limit : Int64)
    (env : Env β) (depth : Nat) (ledger : Ledger) :
    ((evaluator.limitedTo limit).evalAt expression env depth).outcome ledger =
        .ok (limitExceeded limit) ∨
      ((evaluator.limitedTo limit).evalAt expression env depth).run.run ledger =
        ((evaluator.limitedTo 0).evalAt expression env depth).run.run ledger := by
  have alike : ((evaluator.limitedTo limit).evalAt expression env depth).EqUnless
      (limitExceeded limit) ((evaluator.limitedTo 0).evalAt expression env depth) :=
    (Correspondence.upToLimit limit standard).of_agrees_where
      (fun expression _ => expression.Every Expr.Uncatching)
      (fun every => ⟨rfl, rfl, every.here⟩)
      (fun every placed member => every.inside _ (Expr.mem_parts_of_mem_placedParts member))
      (.refl env) uncaught
  exact alike ledger

/-- The squares do not fit in a limit of four levels. -/
theorem limit_fails_loudly_squaring :
    (new 9 true : Evaluator Host).contexts = Context.builtIn ∧
      squaring.Every Expr.Uncatching ∧
      ((((new 9 true).limitedTo 4).evalAt squaring .empty 0).outcome {} =
          .ok (limitExceeded 4) ∨
        (((new 9 true).limitedTo 4).evalAt squaring .empty 0).run.run {} =
          (((new 9 true).limitedTo 0).evalAt squaring .empty 0).run.run {}) ∧
      (((new 9 true).limitedTo 4).evalAt squaring .empty 0).outcome {} = .ok (limitExceeded 4) ∧
      (((new 9 true).limitedTo 0).evalAt squaring .empty 0).outcome {} =
        .ok (.list [.int 4, .int 9]) := by
  have lifting {name : String} {first second : Expr Host} (head : first.Every Expr.Uncatching)
      (last : second.Every Expr.Uncatching) :
      (Expr.lift "list" (.call name [first, second])).Every Expr.Uncatching :=
    .intro trivial (List.forall_mem_singleton.mpr
      (.intro trivial (List.forall_mem_cons.mpr ⟨head, List.forall_mem_singleton.mpr last⟩)))
  have uncaught : squaring.Every Expr.Uncatching :=
    .intro trivial (List.forall_mem_cons.mpr ⟨.leaf rfl trivial, List.forall_mem_cons.mpr
      ⟨lifting (.leaf rfl trivial) (.leaf rfl trivial), List.forall_mem_singleton.mpr
        (lifting (.leaf rfl trivial) (.leaf rfl trivial))⟩⟩)
  exact ⟨rfl, uncaught, limit_fails_loudly rfl uncaught 4 .empty 0 {}, rfl, rfl⟩

end Evaluator

end GrammarKit
