import GrammarKit.Proofs.Equality
import GrammarKit.Proofs.Tree
/-!
# Host values as trees

The equality of host values follows the constructors of four types that contain one another. Written
as trees, all four are compared alike (`Host.alike_eq`), so the equality of host values is symmetric
and transitive, and a host value equals itself exactly when no number anywhere inside it is a NaN
(`Host.alike_self_iff`).
-/

namespace GrammarKit

variable {β γ : Type}

/-! ## Values -/

namespace Value

mutual

/-- The tree of a value, given the trees of what boxes hold. -/
def treeWith (boxed : β → Tree) : Value β → Tree
  | .int number => .node 0 [.int number] []
  | .bool truth => .node 1 [.flag truth] []
  | .char code => .node 2 [.symbols [code]] []
  | .string text => .node 3 [.word text] []
  | .symbol name => .node 4 [.word name] []
  | .box payload => .node 5 [] [boxed payload]
  | .data name ownTag args => .node 6 [.word name, .word ownTag] (treesWith boxed args)
  | .list items => .node 7 [] (treesWith boxed items)
  | .exception raised => .node 8 [] [treeWith boxed raised]

/-- The trees of values one by one. -/
def treesWith (boxed : β → Tree) : List (Value β) → List Tree
  | [] => []
  | first :: others => treeWith boxed first :: treesWith boxed others

end

variable {boxed : β → Tree} {boxed' : γ → Tree} {same : β → γ → Bool}

mutual

/-- Values are compared as their trees are, when boxes are. -/
theorem alikeWith_eq (boxes : ∀ left right, same left right = (boxed left).alike (boxed' right))
    (left : Value β) (right : Value γ) :
    left.alikeWith same right = (left.treeWith boxed).alike (right.treeWith boxed') := by
  cases left with
  | data name ownTag args =>
    cases right with
    | data name' ownTag' args' =>
      have each := alikeAllWith_eq boxes args args'
      simp [alikeWith, treeWith, Tree.alike, each, Bool.beq_eq_decide_eq]
    | _ => rfl
  | list items =>
    cases right with
    | list items' =>
      have each := alikeAllWith_eq boxes items items'
      simp [alikeWith, treeWith, Tree.alike, each]
    | _ => rfl
  | exception raised =>
    cases right with
    | exception raised' =>
      have inner := alikeWith_eq boxes raised raised'
      simp [alikeWith, treeWith, Tree.alike, Tree.alikeAll, inner]
    | _ => rfl
  | box payload =>
    cases right with
    | box payload' => simp [alikeWith, treeWith, Tree.alike, Tree.alikeAll, boxes]
    | _ => rfl
  | _ =>
    cases right <;>
      first
        | rfl
        | simp [alikeWith, treeWith, Tree.alike, Tree.alikeAll, Bool.beq_eq_decide_eq]

/-- `alikeWith_eq` item by item. -/
theorem alikeAllWith_eq (boxes : ∀ left right, same left right = (boxed left).alike (boxed' right))
    (lefts : List (Value β)) (rights : List (Value γ)) :
    alikeAllWith same lefts rights =
      Tree.alikeAll (treesWith boxed lefts) (treesWith boxed' rights) := by
  cases lefts with
  | nil => cases rights <;> rfl
  | cons left lefts =>
    cases rights with
    | nil => rfl
    | cons right rights =>
      rw [alikeAllWith, alikeWith_eq boxes left right, alikeAllWith_eq boxes lefts rights]
      rfl

end

mutual

/-- Knowing how small the boxed things are does not change the tree. -/
theorem treeWith_within [SizeOf β] {small : β → Prop} (value : Value β)
    (below : ∀ payload, sizeOf payload < sizeOf value → small payload) :
    (value.within small below).treeWith (fun inner => boxed inner.val) = value.treeWith boxed := by
  cases value with
  | data name ownTag args =>
    exact congrArg (Tree.node 6 [.word name, .word ownTag]) (treesWith_within args _)
  | list items => exact congrArg (Tree.node 7 []) (treesWith_within items _)
  | exception raised => exact congrArg (Tree.node 8 [] [·]) (treeWith_within raised _)
  | _ => rfl

/-- `treeWith_within` item by item. -/
theorem treesWith_within [SizeOf β] {small : β → Prop} (values : List (Value β))
    (below : ∀ payload, sizeOf payload < sizeOf values → small payload) :
    treesWith (fun inner => boxed inner.val) (withinAll small values below) =
      treesWith boxed values := by
  cases values with
  | nil => rfl
  | cons first others =>
    exact congrArg₂ List.cons (treeWith_within first _) (treesWith_within others _)

end

end Value

/-! ## Patterns -/

namespace Pattern

mutual

/-- The tree of a pattern, given the trees of what boxes hold. -/
def treeWith (boxed : β → Tree) : Pattern β → Tree
  | .lit value => .node 0 [] [value.treeWith boxed]
  | .var name => .node 1 [.word name] []
  | .any => .node 2 [] []
  | .tagged wanted => .node 3 [.word wanted] []
  | .data name wantedTag args => .node 4 [.word name, .word wantedTag] (treesWith boxed args)
  | .list items => .node 5 [] (treesWith boxed items)
  | .exception raised => .node 6 [] [treeWith boxed raised]

/-- The trees of patterns one by one. -/
def treesWith (boxed : β → Tree) : List (Pattern β) → List Tree
  | [] => []
  | first :: others => treeWith boxed first :: treesWith boxed others

end

variable {boxed : β → Tree} {boxed' : γ → Tree} {same : β → γ → Bool}

mutual

/-- Patterns are compared as their trees are, when boxes are. -/
theorem alikeWith_eq (boxes : ∀ left right, same left right = (boxed left).alike (boxed' right))
    (left : Pattern β) (right : Pattern γ) :
    left.alikeWith same right = (left.treeWith boxed).alike (right.treeWith boxed') := by
  cases left with
  | data name wantedTag args =>
    cases right with
    | data name' wantedTag' args' =>
      have each := alikeAllWith_eq boxes args args'
      simp [alikeWith, treeWith, Tree.alike, each, Bool.beq_eq_decide_eq]
    | _ => rfl
  | list items =>
    cases right with
    | list items' =>
      have each := alikeAllWith_eq boxes items items'
      simp [alikeWith, treeWith, Tree.alike, each]
    | _ => rfl
  | exception raised =>
    cases right with
    | exception raised' =>
      have inner := alikeWith_eq boxes raised raised'
      simp [alikeWith, treeWith, Tree.alike, Tree.alikeAll, inner]
    | _ => rfl
  | lit value =>
    cases right with
    | lit value' =>
      have inner := Value.alikeWith_eq boxes value value'
      simp [alikeWith, treeWith, Tree.alike, Tree.alikeAll, inner]
    | _ => rfl
  | _ =>
    cases right <;>
      first
        | rfl
        | simp [alikeWith, treeWith, Tree.alike, Tree.alikeAll, Bool.beq_eq_decide_eq]

/-- `alikeWith_eq` item by item. -/
theorem alikeAllWith_eq (boxes : ∀ left right, same left right = (boxed left).alike (boxed' right))
    (lefts : List (Pattern β)) (rights : List (Pattern γ)) :
    alikeAllWith same lefts rights =
      Tree.alikeAll (treesWith boxed lefts) (treesWith boxed' rights) := by
  cases lefts with
  | nil => cases rights <;> rfl
  | cons left lefts =>
    cases rights with
    | nil => rfl
    | cons right rights =>
      rw [alikeAllWith, alikeWith_eq boxes left right, alikeAllWith_eq boxes lefts rights]
      rfl

end

mutual

/-- Knowing how small the boxed things are does not change the tree. -/
theorem treeWith_within [SizeOf β] {small : β → Prop} (pattern : Pattern β)
    (below : ∀ payload, sizeOf payload < sizeOf pattern → small payload) :
    (pattern.within small below).treeWith (fun inner => boxed inner.val) =
      pattern.treeWith boxed := by
  cases pattern with
  | lit value => exact congrArg (Tree.node 0 [] [·]) (value.treeWith_within _)
  | data name wantedTag args =>
    exact congrArg (Tree.node 4 [.word name, .word wantedTag]) (treesWith_within args _)
  | list items => exact congrArg (Tree.node 5 []) (treesWith_within items _)
  | exception raised => exact congrArg (Tree.node 6 [] [·]) (treeWith_within raised _)
  | _ => rfl

/-- `treeWith_within` item by item. -/
theorem treesWith_within [SizeOf β] {small : β → Prop} (patterns : List (Pattern β))
    (below : ∀ payload, sizeOf payload < sizeOf patterns → small payload) :
    treesWith (fun inner => boxed inner.val) (withinAll small patterns below) =
      treesWith boxed patterns := by
  cases patterns with
  | nil => rfl
  | cons first others =>
    exact congrArg₂ List.cons (treeWith_within first _) (treesWith_within others _)

end

end Pattern

/-! ## Expressions -/

namespace Expr

mutual

/-- The tree of an expression, given the trees of what boxes hold. -/
def treeWith (boxed : β → Tree) : Expr β → Tree
  | .absent => .node 0 [] []
  | .lit value => .node 1 [] [value.treeWith boxed]
  | .var name => .node 2 [.word name] []
  | .call function args => .node 3 [.word function] (treesWith boxed args)
  | .construct name ownTag args => .node 4 [.word name, .word ownTag] (treesWith boxed args)
  | .ifThenElse condition yes no =>
    .node 5 [] [treeWith boxed condition, treeWith boxed yes, treeWith boxed no]
  | .letIn name value body => .node 6 [.word name] [treeWith boxed value, treeWith boxed body]
  | .letAll bindings body => .node 7 [] (treeWith boxed body :: bindingTreesWith boxed bindings)
  | .case subject clauses => .node 8 [] (treeWith boxed subject :: clauseTreesWith boxed clauses)
  | .raise value => .node 9 [] [treeWith boxed value]
  | .attempt body catches => .node 10 [] (treeWith boxed body :: catchTreesWith boxed catches)
  | .lift context value => .node 11 [.word context] [treeWith boxed value]
  | .bind context value name body =>
    .node 12 [.word context, .word name] [treeWith boxed value, treeWith boxed body]
  | .block context steps => .node 13 [.word context] (stepTreesWith boxed steps)

/-- The trees of expressions one by one. -/
def treesWith (boxed : β → Tree) : List (Expr β) → List Tree
  | [] => []
  | first :: others => treeWith boxed first :: treesWith boxed others

/-- The trees of bindings one by one. -/
def bindingTreesWith (boxed : β → Tree) : List (Binding (Expr β)) → List Tree
  | [] => []
  | ⟨name, value⟩ :: others =>
    .node 0 [.word name] [treeWith boxed value] :: bindingTreesWith boxed others

/-- The trees of clauses one by one. -/
def clauseTreesWith (boxed : β → Tree) : List (Clause β (Expr β)) → List Tree
  | [] => []
  | ⟨pattern, body⟩ :: others =>
    .node 0 [] [pattern.treeWith boxed, treeWith boxed body] :: clauseTreesWith boxed others

/-- The trees of catches one by one. -/
def catchTreesWith (boxed : β → Tree) : List (Catch (Expr β)) → List Tree
  | [] => []
  | ⟨name, test, handler⟩ :: others =>
    .node 0 [.word name] [treeWith boxed test, treeWith boxed handler] ::
      catchTreesWith boxed others

/-- The trees of steps one by one. -/
def stepTreesWith (boxed : β → Tree) : List (Step (Expr β)) → List Tree
  | [] => []
  | ⟨name, value⟩ :: others =>
    .node 0 [.word name] [treeWith boxed value] :: stepTreesWith boxed others

end

variable {boxed : β → Tree} {boxed' : γ → Tree} {same : β → γ → Bool}

mutual

/-- Expressions are compared as their trees are, when boxes are. -/
theorem alikeWith_eq (boxes : ∀ left right, same left right = (boxed left).alike (boxed' right))
    (left : Expr β) (right : Expr γ) :
    left.alikeWith same right = (left.treeWith boxed).alike (right.treeWith boxed') := by
  cases left with
  | absent => cases right <;> rfl
  | lit value =>
    cases right with
    | lit value' =>
      have inner := Value.alikeWith_eq boxes value value'
      simp [alikeWith, treeWith, Tree.alike, Tree.alikeAll, inner]
    | _ => rfl
  | var name =>
    cases right with
    | var name' =>
      simp [alikeWith, treeWith, Tree.alike, Tree.alikeAll, Bool.beq_eq_decide_eq]
    | _ => rfl
  | call function args =>
    cases right with
    | call function' args' =>
      have each := alikeAllWith_eq boxes args args'
      simp [alikeWith, treeWith, Tree.alike, each, Bool.beq_eq_decide_eq]
    | _ => rfl
  | construct name ownTag args =>
    cases right with
    | construct name' ownTag' args' =>
      have each := alikeAllWith_eq boxes args args'
      simp [alikeWith, treeWith, Tree.alike, each, Bool.beq_eq_decide_eq]
    | _ => rfl
  | ifThenElse condition yes no =>
    cases right with
    | ifThenElse condition' yes' no' =>
      have first := alikeWith_eq boxes condition condition'
      have second := alikeWith_eq boxes yes yes'
      have third := alikeWith_eq boxes no no'
      simp [alikeWith, treeWith, Tree.alike, Tree.alikeAll, first, second, third, Bool.and_assoc]
    | _ => rfl
  | letIn name value body =>
    cases right with
    | letIn name' value' body' =>
      have first := alikeWith_eq boxes value value'
      have second := alikeWith_eq boxes body body'
      simp [alikeWith, treeWith, Tree.alike, Tree.alikeAll, first, second, Bool.and_assoc,
        Bool.beq_eq_decide_eq]
    | _ => rfl
  | letAll bindings body =>
    cases right with
    | letAll bindings' body' =>
      have each := alikeBindingsWith_eq boxes bindings bindings'
      have inner := alikeWith_eq boxes body body'
      simp [alikeWith, treeWith, Tree.alike, Tree.alikeAll, each, inner, Bool.and_comm]
    | _ => rfl
  | case subject clauses =>
    cases right with
    | case subject' clauses' =>
      have inner := alikeWith_eq boxes subject subject'
      have each := alikeClausesWith_eq boxes clauses clauses'
      simp [alikeWith, treeWith, Tree.alike, Tree.alikeAll, each, inner]
    | _ => rfl
  | raise value =>
    cases right with
    | raise value' =>
      have inner := alikeWith_eq boxes value value'
      simp [alikeWith, treeWith, Tree.alike, Tree.alikeAll, inner]
    | _ => rfl
  | attempt body catches =>
    cases right with
    | attempt body' catches' =>
      have inner := alikeWith_eq boxes body body'
      have each := alikeCatchesWith_eq boxes catches catches'
      simp [alikeWith, treeWith, Tree.alike, Tree.alikeAll, each, inner]
    | _ => rfl
  | lift context value =>
    cases right with
    | lift context' value' =>
      have inner := alikeWith_eq boxes value value'
      simp [alikeWith, treeWith, Tree.alike, Tree.alikeAll, inner, Bool.beq_eq_decide_eq]
    | _ => rfl
  | bind context value name body =>
    cases right with
    | bind context' value' name' body' =>
      have first := alikeWith_eq boxes value value'
      have second := alikeWith_eq boxes body body'
      simp [alikeWith, treeWith, Tree.alike, Tree.alikeAll, first, second, Bool.beq_eq_decide_eq,
        Bool.and_assoc, Bool.and_left_comm]
    | _ => rfl
  | block context steps =>
    cases right with
    | block context' steps' =>
      have each := alikeStepsWith_eq boxes steps steps'
      simp [alikeWith, treeWith, Tree.alike, each, Bool.beq_eq_decide_eq]
    | _ => rfl

/-- `alikeWith_eq` for lists of expressions. -/
theorem alikeAllWith_eq (boxes : ∀ left right, same left right = (boxed left).alike (boxed' right))
    (lefts : List (Expr β)) (rights : List (Expr γ)) :
    alikeAllWith same lefts rights =
      Tree.alikeAll (treesWith boxed lefts) (treesWith boxed' rights) := by
  cases lefts with
  | nil => cases rights <;> rfl
  | cons left lefts =>
    cases rights with
    | nil => rfl
    | cons right rights =>
      rw [alikeAllWith, alikeWith_eq boxes left right, alikeAllWith_eq boxes lefts rights]
      rfl

/-- `alikeWith_eq` for bindings. -/
theorem alikeBindingsWith_eq
    (boxes : ∀ left right, same left right = (boxed left).alike (boxed' right))
    (lefts : List (Binding (Expr β))) (rights : List (Binding (Expr γ))) :
    alikeBindingsWith same lefts rights =
      Tree.alikeAll (bindingTreesWith boxed lefts) (bindingTreesWith boxed' rights) := by
  cases lefts with
  | nil => cases rights <;> rfl
  | cons left lefts =>
    cases rights with
    | nil => rfl
    | cons right rights =>
      obtain ⟨name, value⟩ := left
      obtain ⟨name', value'⟩ := right
      have inner := alikeWith_eq boxes value value'
      have each := alikeBindingsWith_eq boxes lefts rights
      simp [alikeBindingsWith, bindingTreesWith, Tree.alikeAll, Tree.alike, inner, each,
        Bool.beq_eq_decide_eq]

/-- `alikeWith_eq` for clauses. -/
theorem alikeClausesWith_eq
    (boxes : ∀ left right, same left right = (boxed left).alike (boxed' right))
    (lefts : List (Clause β (Expr β))) (rights : List (Clause γ (Expr γ))) :
    alikeClausesWith same lefts rights =
      Tree.alikeAll (clauseTreesWith boxed lefts) (clauseTreesWith boxed' rights) := by
  cases lefts with
  | nil => cases rights <;> rfl
  | cons left lefts =>
    cases rights with
    | nil => rfl
    | cons right rights =>
      obtain ⟨pattern, body⟩ := left
      obtain ⟨pattern', body'⟩ := right
      have first := Pattern.alikeWith_eq boxes pattern pattern'
      have second := alikeWith_eq boxes body body'
      have each := alikeClausesWith_eq boxes lefts rights
      simp [alikeClausesWith, clauseTreesWith, Tree.alikeAll, Tree.alike, first, second, each]

/-- `alikeWith_eq` for catches. -/
theorem alikeCatchesWith_eq
    (boxes : ∀ left right, same left right = (boxed left).alike (boxed' right))
    (lefts : List (Catch (Expr β))) (rights : List (Catch (Expr γ))) :
    alikeCatchesWith same lefts rights =
      Tree.alikeAll (catchTreesWith boxed lefts) (catchTreesWith boxed' rights) := by
  cases lefts with
  | nil => cases rights <;> rfl
  | cons left lefts =>
    cases rights with
    | nil => rfl
    | cons right rights =>
      obtain ⟨name, test, handler⟩ := left
      obtain ⟨name', test', handler'⟩ := right
      have first := alikeWith_eq boxes test test'
      have second := alikeWith_eq boxes handler handler'
      have each := alikeCatchesWith_eq boxes lefts rights
      simp [alikeCatchesWith, catchTreesWith, Tree.alikeAll, Tree.alike, first, second, each,
        Bool.and_assoc, Bool.beq_eq_decide_eq]

/-- `alikeWith_eq` for steps. -/
theorem alikeStepsWith_eq
    (boxes : ∀ left right, same left right = (boxed left).alike (boxed' right))
    (lefts : List (Step (Expr β))) (rights : List (Step (Expr γ))) :
    alikeStepsWith same lefts rights =
      Tree.alikeAll (stepTreesWith boxed lefts) (stepTreesWith boxed' rights) := by
  cases lefts with
  | nil => cases rights <;> rfl
  | cons left lefts =>
    cases rights with
    | nil => rfl
    | cons right rights =>
      obtain ⟨name, value⟩ := left
      obtain ⟨name', value'⟩ := right
      have inner := alikeWith_eq boxes value value'
      have each := alikeStepsWith_eq boxes lefts rights
      simp [alikeStepsWith, stepTreesWith, Tree.alikeAll, Tree.alike, inner, each,
        Bool.beq_eq_decide_eq]

end

mutual

/-- Knowing how small the boxed things are does not change the tree. -/
theorem treeWith_within [SizeOf β] {small : β → Prop} (expression : Expr β)
    (below : ∀ payload, sizeOf payload < sizeOf expression → small payload) :
    (expression.within small below).treeWith (fun inner => boxed inner.val) =
      expression.treeWith boxed := by
  cases expression with
  | absent | var => rfl
  | lit value => exact congrArg (Tree.node 1 [] [·]) (value.treeWith_within _)
  | call function args => exact congrArg (Tree.node 3 [.word function]) (treesWith_within args _)
  | construct name ownTag args =>
    exact congrArg (Tree.node 4 [.word name, .word ownTag]) (treesWith_within args _)
  | ifThenElse condition yes no =>
    exact congrArg (Tree.node 5 []) (congrArg₂ List.cons (treeWith_within condition _)
      (congrArg₂ ([·, ·]) (treeWith_within yes _) (treeWith_within no _)))
  | letIn name value body =>
    exact congrArg₂ (Tree.node 6 [.word name] [·, ·]) (treeWith_within value _)
      (treeWith_within body _)
  | letAll bindings body =>
    exact congrArg₂ (Tree.node 7 [] <| · :: ·) (treeWith_within body _)
      (bindingTreesWith_within bindings _)
  | case subject clauses =>
    exact congrArg₂ (Tree.node 8 [] <| · :: ·) (treeWith_within subject _)
      (clauseTreesWith_within clauses _)
  | raise value => exact congrArg (Tree.node 9 [] [·]) (treeWith_within value _)
  | attempt body catches =>
    exact congrArg₂ (Tree.node 10 [] <| · :: ·) (treeWith_within body _)
      (catchTreesWith_within catches _)
  | lift context value =>
    exact congrArg (Tree.node 11 [.word context] [·]) (treeWith_within value _)
  | bind context value name body =>
    exact congrArg₂ (Tree.node 12 [.word context, .word name] [·, ·]) (treeWith_within value _)
      (treeWith_within body _)
  | block context steps =>
    exact congrArg (Tree.node 13 [.word context]) (stepTreesWith_within steps _)

/-- `treeWith_within` for lists of expressions. -/
theorem treesWith_within [SizeOf β] {small : β → Prop} (expressions : List (Expr β))
    (below : ∀ payload, sizeOf payload < sizeOf expressions → small payload) :
    treesWith (fun inner => boxed inner.val) (withinAll small expressions below) =
      treesWith boxed expressions := by
  cases expressions with
  | nil => rfl
  | cons first others =>
    exact congrArg₂ List.cons (treeWith_within first _) (treesWith_within others _)

/-- `treeWith_within` for bindings. -/
theorem bindingTreesWith_within [SizeOf β] {small : β → Prop} (bindings : List (Binding (Expr β)))
    (below : ∀ payload, sizeOf payload < sizeOf bindings → small payload) :
    bindingTreesWith (fun inner => boxed inner.val) (withinBindings small bindings below) =
      bindingTreesWith boxed bindings := by
  cases bindings with
  | nil => rfl
  | cons first others =>
    obtain ⟨name, value⟩ := first
    exact congrArg₂ (Tree.node 0 [.word name] [·] :: ·) (treeWith_within value _)
      (bindingTreesWith_within others _)

/-- `treeWith_within` for clauses. -/
theorem clauseTreesWith_within [SizeOf β] {small : β → Prop} (clauses : List (Clause β (Expr β)))
    (below : ∀ payload, sizeOf payload < sizeOf clauses → small payload) :
    clauseTreesWith (fun inner => boxed inner.val) (withinClauses small clauses below) =
      clauseTreesWith boxed clauses := by
  cases clauses with
  | nil => rfl
  | cons first others =>
    obtain ⟨pattern, body⟩ := first
    exact congrArg₂ (Tree.node 0 [] · :: ·)
      (congrArg₂ ([·, ·]) (pattern.treeWith_within _) (treeWith_within body _))
      (clauseTreesWith_within others _)

/-- `treeWith_within` for catches. -/
theorem catchTreesWith_within [SizeOf β] {small : β → Prop} (catches : List (Catch (Expr β)))
    (below : ∀ payload, sizeOf payload < sizeOf catches → small payload) :
    catchTreesWith (fun inner => boxed inner.val) (withinCatches small catches below) =
      catchTreesWith boxed catches := by
  cases catches with
  | nil => rfl
  | cons first others =>
    obtain ⟨name, test, handler⟩ := first
    exact congrArg₂ (Tree.node 0 [.word name] · :: ·)
      (congrArg₂ ([·, ·]) (treeWith_within test _) (treeWith_within handler _))
      (catchTreesWith_within others _)

/-- `treeWith_within` for steps. -/
theorem stepTreesWith_within [SizeOf β] {small : β → Prop} (steps : List (Step (Expr β)))
    (below : ∀ payload, sizeOf payload < sizeOf steps → small payload) :
    stepTreesWith (fun inner => boxed inner.val) (withinSteps small steps below) =
      stepTreesWith boxed steps := by
  cases steps with
  | nil => rfl
  | cons first others =>
    obtain ⟨name, value⟩ := first
    exact congrArg₂ (Tree.node 0 [.word name] [·] :: ·) (treeWith_within value _)
      (stepTreesWith_within others _)

end

end Expr

/-! ## Host values -/

namespace Host

mutual

/-- The tree of a host value. -/
def tree : Host → Tree
  | .bool truth => .node 0 [.flag truth] []
  | .int number => .node 1 [.int number] []
  | .wide number => .node 2 [.int number] []
  | .octet number => .node 3 [.octet number] []
  | .unsigned number => .node 4 [.unsigned number] []
  | .float number => .node 5 [] [.leaf number]
  | .text content => .node 6 [.word content] []
  | .symbol code => .node 7 [.symbols [code]] []
  | .symbols codes => .node 8 [.symbols codes] []
  | .absent => .node 9 [] []
  | .unit => .node 10 [] []
  | .list items => .node 11 [] (trees items)
  | .record entries => .node 12 [] (recordTrees entries)
  | .table entries => .node 13 [] (tableTrees entries)
  | .moment time => .node 14 [.moment time] []
  | .value held => .node 15 [] [held.contained.treeWith fun inner => tree inner.val]
  | .expr expression => .node 16 [] [expression.contained.treeWith fun inner => tree inner.val]
  | .pair first second => .node 17 [] [tree first, tree second]
  | .triple first second third => .node 18 [] [tree first, tree second, tree third]
termination_by host => sizeOf host
decreasing_by
  all_goals first
    | (simp; have := inner.property; omega)
    | (simp; try omega)

/-- The trees of host values one by one. -/
def trees : List Host → List Tree
  | [] => []
  | first :: others => tree first :: trees others
termination_by hosts => sizeOf hosts
decreasing_by all_goals (simp; try omega)

/-- The trees of the entries of a mapping from texts. -/
def recordTrees : List (String × Host) → List Tree
  | [] => []
  | (key, item) :: others => .node 0 [.word key] [tree item] :: recordTrees others
termination_by entries => sizeOf entries
decreasing_by all_goals (simp; try omega)

/-- The trees of the entries of a mapping. -/
def tableTrees : List (Host × Host) → List Tree
  | [] => []
  | (key, item) :: others => .node 0 [] [tree key, tree item] :: tableTrees others
termination_by entries => sizeOf entries
decreasing_by all_goals (simp; try omega)

end

/-- The tree of a boxed value has the trees of its boxes. -/
theorem tree_value (held : Value Host) : tree (.value held) = .node 15 [] [held.treeWith tree] := by
  rw [tree, Value.contained, Value.treeWith_within]

/-- The tree of a boxed expression has the trees of its boxes. -/
theorem tree_expr (expression : Expr Host) :
    tree (.expr expression) = .node 16 [] [expression.treeWith tree] := by
  rw [tree, Expr.contained, Expr.treeWith_within]

/-- The tree of a host value is a node of its kind. -/
theorem exists_tree_eq (host : Host) :
    ∃ marks branches, host.tree = .node host.ctorIdx marks branches := by
  cases host <;> (unfold tree; exact ⟨_, _, rfl⟩)

/-- Host values of different kinds are not alike, and neither are their trees. -/
theorem alike_eq_of_kinds_differ {left right : Host}
    (differ : (left.ctorIdx == right.ctorIdx) = false) :
    left.alike right = left.tree.alike right.tree := by
  have apart : left.alike right = false := by
    unfold alike
    split <;> first | exact absurd rfl (beq_eq_false_iff_ne.mp differ) | rfl
  obtain ⟨marks, branches, shape⟩ := exists_tree_eq left
  obtain ⟨marks', branches', shape'⟩ := exists_tree_eq right
  rw [apart, shape, shape', Tree.alike, differ]
  rfl

mutual

/-- Host values are compared as their trees are. -/
theorem alike_eq (left right : Host) : left.alike right = left.tree.alike right.tree := by
  cases left <;> cases right <;> try exact alike_eq_of_kinds_differ rfl
  case list.list items items' =>
    have each := alikeAll_eq items items'
    simp [alike, tree, Tree.alike, each]
  case record.record entries entries' =>
    have each := alikeRecord_eq entries entries'
    simp [alike, tree, Tree.alike, each]
  case table.table entries entries' =>
    have each := alikeTable_eq entries entries'
    simp [alike, tree, Tree.alike, each]
  case value.value held held' =>
    have boxes (inner : { payload : Host // sizeOf payload < sizeOf held }) (other : Host) :
        alike inner.val other = (tree inner.val).alike (tree other) := alike_eq inner.val other
    have each := Value.alikeWith_eq boxes held.contained held'
    rw [alike, each, tree_value held', tree]
    simp [Tree.alike, Tree.alikeAll]
  case expr.expr expression expression' =>
    have boxes (inner : { payload : Host // sizeOf payload < sizeOf expression })
        (other : Host) : alike inner.val other = (tree inner.val).alike (tree other) :=
      alike_eq inner.val other
    have each := Expr.alikeWith_eq boxes expression.contained expression'
    rw [alike, each, tree_expr expression', tree]
    simp [Tree.alike, Tree.alikeAll]
  case pair.pair first second first' second' =>
    have one := alike_eq first first'
    have two := alike_eq second second'
    simp [alike, tree, Tree.alike, Tree.alikeAll, one, two]
  case triple.triple first second third first' second' third' =>
    have one := alike_eq first first'
    have two := alike_eq second second'
    have three := alike_eq third third'
    simp [alike, tree, Tree.alike, Tree.alikeAll, one, two, three, Bool.and_assoc]
  all_goals simp [alike, tree, Tree.alike, Tree.alikeAll, Bool.beq_eq_decide_eq]
termination_by sizeOf left
decreasing_by
  all_goals first
    | (simp; have := inner.property; omega)
    | (simp; try omega)

/-- `alike_eq` item by item. -/
theorem alikeAll_eq (lefts rights : List Host) :
    alikeAll lefts rights = Tree.alikeAll (trees lefts) (trees rights) := by
  cases lefts with
  | nil => cases rights <;> simp [alikeAll, trees, Tree.alikeAll]
  | cons left lefts =>
    cases rights with
    | nil => simp [alikeAll, trees, Tree.alikeAll]
    | cons right rights =>
      have inner := alike_eq left right
      have each := alikeAll_eq lefts rights
      simp [alikeAll, trees, Tree.alikeAll, inner, each]
termination_by sizeOf lefts

/-- `alike_eq` entry by entry. -/
theorem alikeRecord_eq (lefts rights : List (String × Host)) :
    alikeRecord lefts rights = Tree.alikeAll (recordTrees lefts) (recordTrees rights) := by
  rcases lefts with _ | ⟨⟨key, item⟩, lefts⟩
  · rcases rights with _ | ⟨⟨key', item'⟩, rights⟩ <;>
      simp [alikeRecord, recordTrees, Tree.alikeAll]
  · rcases rights with _ | ⟨⟨key', item'⟩, rights⟩
    · simp [alikeRecord, recordTrees, Tree.alikeAll]
    · have inner := alike_eq item item'
      have each := alikeRecord_eq lefts rights
      simp [alikeRecord, recordTrees, Tree.alikeAll, Tree.alike, inner, each,
        Bool.beq_eq_decide_eq]
termination_by sizeOf lefts

/-- `alike_eq` entry by entry. -/
theorem alikeTable_eq (lefts rights : List (Host × Host)) :
    alikeTable lefts rights = Tree.alikeAll (tableTrees lefts) (tableTrees rights) := by
  rcases lefts with _ | ⟨⟨key, item⟩, lefts⟩
  · rcases rights with _ | ⟨⟨key', item'⟩, rights⟩ <;>
      simp [alikeTable, tableTrees, Tree.alikeAll]
  · rcases rights with _ | ⟨⟨key', item'⟩, rights⟩
    · simp [alikeTable, tableTrees, Tree.alikeAll]
    · have first := alike_eq key key'
      have second := alike_eq item item'
      have each := alikeTable_eq lefts rights
      simp [alikeTable, tableTrees, Tree.alikeAll, Tree.alike, first, second, each]
termination_by sizeOf lefts

end

end Host

instance : LawfulPayload Host where
  alike_symm {left right} alike := by
    change left.alike right = true at alike
    change right.alike left = true
    rw [Host.alike_eq] at alike ⊢
    exact Tree.alike_symm alike
  alike_trans {left middle right} alike alike' := by
    change left.alike middle = true at alike
    change middle.alike right = true at alike'
    change left.alike right = true
    rw [Host.alike_eq] at alike alike' ⊢
    exact Tree.alike_trans alike alike'

/-- The floating-point numbers anywhere inside a host value. -/
def Host.numbers (host : Host) : List Float := host.tree.numbers

/-- A host value is like itself when no number inside it is a NaN. -/
theorem Host.alike_self_iff (host : Host) :
    host.alike host = true ↔ ∀ number ∈ host.numbers, number.isNaN = false := by
  rw [alike_eq]
  exact Tree.alike_self_iff host.tree

end GrammarKit
