import GrammarKit.Proofs.Substitution
/-!
# Free names

The names that an expression looks up outside of itself are its free names: those it mentions where
no form around them has bound them. Substitution for a name that is not free does nothing, so what
such a name is bound to makes no difference.
-/

namespace GrammarKit.Expr

variable {β : Type}

mutual

/-- The names that an expression mentions where it does not bind them itself. -/
def freeNames : Expr β → List String
  | .absent | .lit _ => []
  | .var name => [name]
  | .call _ args | .construct _ _ args => freeNamesAll args
  | .ifThenElse condition yes no => freeNames condition ++ freeNames yes ++ freeNames no
  | .letIn name value body => freeNames value ++ (freeNames body).filter (· ≠ name)
  | .letAll bindings body =>
    freeNamesBindings bindings ++ (freeNames body).filter (· ∉ bindings.map (·.name))
  | .case subject clauses => freeNames subject ++ freeNamesClauses clauses
  | .raise value | .lift _ value => freeNames value
  | .attempt body catches => freeNames body ++ freeNamesCatches catches
  | .bind _ value name body =>
    freeNames value ++ (freeNames body).filter fun free => ¬ (name = free ∧ name ≠ "")
  | .block _ steps => freeNamesSteps steps

/-- `freeNames` for a list of expressions. -/
def freeNamesAll : List (Expr β) → List String
  | [] => []
  | first :: others => freeNames first ++ freeNamesAll others

/-- `freeNames` for bindings, none of which sees another. -/
def freeNamesBindings : List (Binding (Expr β)) → List String
  | [] => []
  | ⟨_, value⟩ :: others => freeNames value ++ freeNamesBindings others

/-- `freeNames` for clauses, whose patterns bind names. -/
def freeNamesClauses : List (Clause β (Expr β)) → List String
  | [] => []
  | ⟨pattern, body⟩ :: others =>
    (freeNames body).filter (· ∉ pattern.names) ++ freeNamesClauses others

/-- `freeNames` for catches, each of which binds a name. -/
def freeNamesCatches : List (Catch (Expr β)) → List String
  | [] => []
  | ⟨name, test, handler⟩ :: others =>
    (freeNames test ++ freeNames handler).filter (· ≠ name) ++ freeNamesCatches others

/-- `freeNames` for steps, each of which may bind a name for those after it. -/
def freeNamesSteps : List (Step (Expr β)) → List String
  | [] => []
  | ⟨name, value⟩ :: others =>
    freeNames value ++ (freeNamesSteps others).filter fun free => ¬ (name = free ∧ name ≠ "")

end

variable {name : String} {value : Value β}

/-- What is free in one of several expressions is free in them. -/
theorem mem_freeNamesAll {expressions : List (Expr β)} :
    name ∈ freeNamesAll expressions ↔ ∃ expression ∈ expressions, name ∈ expression.freeNames := by
  induction expressions with
  | nil => simp [freeNamesAll]
  | cons first others ih => simp [freeNamesAll, ih]

/-- What is free in one of several bindings is free in them. -/
theorem mem_freeNamesBindings {bindings : List (Binding (Expr β))} :
    name ∈ freeNamesBindings bindings ↔
      ∃ binding ∈ bindings, name ∈ binding.value.freeNames := by
  induction bindings with
  | nil => simp [freeNamesBindings]
  | cons first others ih => simp [freeNamesBindings, ih]

/-- What is free in one of several clauses, and not in its pattern, is free in them. -/
theorem mem_freeNamesClauses {clauses : List (Clause β (Expr β))} :
    name ∈ freeNamesClauses clauses ↔
      ∃ clause ∈ clauses, name ∈ clause.body.freeNames ∧ name ∉ clause.pattern.names := by
  induction clauses with
  | nil => simp [freeNamesClauses]
  | cons first others ih => simp [freeNamesClauses, ih]

/-- What is free in the test or the handler of one of several catches, and not its name, is free in
them. -/
theorem mem_freeNamesCatches {catches : List (Catch (Expr β))} :
    name ∈ freeNamesCatches catches ↔
      ∃ clause ∈ catches,
        (name ∈ clause.test.freeNames ∨ name ∈ clause.handler.freeNames) ∧ name ≠ clause.name := by
  induction catches with
  | nil => simp [freeNamesCatches]
  | cons first others ih =>
    simp only [freeNamesCatches, List.mem_append, List.mem_filter, decide_eq_true_eq, ih,
      List.exists_mem_cons_iff]

/-- What is free after a first step, which does not set it, is free in the steps. -/
theorem mem_freeNamesSteps_cons {step : Step (Expr β)} {others : List (Step (Expr β))} :
    name ∈ freeNamesSteps (step :: others) ↔ name ∈ step.value.freeNames ∨
      name ∈ freeNamesSteps others ∧ ¬ (step.name = name ∧ step.name ≠ "") := by
  simp only [freeNamesSteps, List.mem_append, List.mem_filter, decide_eq_true_eq]

/-- What is free in the body of a bind, which does not set it, is free in the bind. -/
theorem mem_freeNames_bind {context other : String} {fed body : Expr β} :
    name ∈ (bind context fed other body).freeNames ↔ name ∈ fed.freeNames ∨
      name ∈ body.freeNames ∧ ¬ (other = name ∧ other ≠ "") := by
  simp only [freeNames, List.mem_append, List.mem_filter, decide_eq_true_eq]

/-- Substitution for a name that is not free in steps leaves the steps as they are, when it leaves
their values so. -/
theorem substSteps_eq_self {steps : List (Step (Expr β))}
    (each : ∀ step ∈ steps, name ∉ step.value.freeNames →
      step.value.subst name value = step.value) (unread : name ∉ freeNamesSteps steps) :
    substSteps name value steps = steps := by
  induction steps with
  | nil => rfl
  | cons step others ih =>
    obtain ⟨head, tail⟩ := List.forall_mem_cons.mp each
    rw [mem_freeNamesSteps_cons, not_or, not_and, not_not] at unread
    rw [substSteps, head unread.1]
    split
    · rfl
    · next shows => rw [ih tail fun later => shows (unread.2 later)]

/-- Substitution for a name that is not free does nothing. -/
theorem subst_eq_self {expression : Expr β} (unread : name ∉ expression.freeNames) :
    expression.subst name value = expression := by
  induction expression using induction_parts with
  | step expression ih =>
  cases expression with
  | absent | lit => rfl
  | var other =>
    rw [freeNames, List.mem_singleton] at unread
    rw [subst, if_neg (Ne.symm unread)]
  | call function args | construct made ownTag args =>
    simp only [freeNames, mem_freeNamesAll, not_exists, not_and] at unread
    have same : args.map (subst name value) = args.map id :=
      List.map_congr_left fun arg inside => ih arg inside (unread arg inside)
    rw [subst, substAll_eq_map, same, List.map_id]
  | ifThenElse condition yes no =>
    simp only [freeNames, List.mem_append, not_or] at unread
    rw [subst, ih condition (by simp [parts]) unread.1.1, ih yes (by simp [parts]) unread.1.2,
      ih no (by simp [parts]) unread.2]
  | letIn other bound body =>
    simp only [freeNames, List.mem_append, List.mem_filter, decide_eq_true_eq, not_or, not_and,
      not_not] at unread
    rw [subst, ih bound (by simp [parts]) unread.1]
    split
    · rfl
    · next differs =>
      rw [ih body (by simp [parts]) fun free => differs (unread.2 free).symm]
  | letAll bindings body =>
    simp only [freeNames, mem_freeNamesBindings, List.mem_append, List.mem_filter,
      decide_eq_true_eq, not_or, not_exists, not_and, not_not] at unread
    rw [subst, substBindings_eq_map, List.map_congr_left fun binding inside => by
      rw [ih binding.value (value_mem_parts inside) (unread.1 binding inside)], List.map_id']
    split
    · rfl
    · next differs => rw [ih body (by simp [parts]) fun free => differs (unread.2 free)]
  | case subject clauses =>
    simp only [freeNames, mem_freeNamesClauses, List.mem_append, not_or, not_exists, not_and,
      not_not] at unread
    rw [subst, ih subject (by simp [parts]) unread.1, substClauses_eq_map,
      List.map_congr_left (g := id), List.map_id]
    intro clause inside
    split
    · rfl
    · next differs =>
      cases there : clause.body.isAbsent with
      | true =>
        have hole := eq_absent_of_isAbsent there
        rw [hole, subst, ← hole]
        rfl
      | false =>
        rw [ih clause.body (body_mem_parts inside there) fun free =>
          differs (unread.2 clause inside free)]
        rfl
  | raise raised | lift context raised =>
    rw [freeNames] at unread
    rw [subst, ih raised (by simp [parts]) unread]
  | attempt body catches =>
    simp only [freeNames, mem_freeNamesCatches, List.mem_append, not_or, not_exists, not_and,
      not_not] at unread
    rw [subst, ih body (by simp [parts]) unread.1, substCatches_eq_map,
      List.map_congr_left (g := id), List.map_id]
    intro clause inside
    split
    · rfl
    · next differs =>
      have free (mentioned : name ∈ clause.test.freeNames ∨ name ∈ clause.handler.freeNames) :
          False := differs (unread.2 clause inside mentioned).symm
      rw [ih clause.test (test_mem_parts inside) fun mentioned => free (.inl mentioned),
        ih clause.handler (handler_mem_parts inside) fun mentioned => free (.inr mentioned)]
      rfl
  | bind context fed other body =>
    rw [mem_freeNames_bind, not_or, not_and, not_not] at unread
    rw [subst, ih fed (by simp [parts]) unread.1]
    split
    · rfl
    · next shows => rw [ih body (by simp [parts]) fun free => shows (unread.2 free)]
  | block context steps =>
    rw [freeNames] at unread
    rw [subst, substSteps_eq_self (fun step inside => ih _ (step_mem_parts inside)) unread]

end GrammarKit.Expr
