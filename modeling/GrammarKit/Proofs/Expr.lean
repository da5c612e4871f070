import GrammarKit.Expr
/-!
# Expressions and their parts

Expressions contain lists of expressions, some of them inside bindings, clauses, catches and steps,
so induction over them goes through the parts of an expression. A clause whose body is absent has no
part there: its body is never evaluated. A condition on expressions holds throughout an expression
(`Expr.Every`) when it holds of it and throughout its parts.
-/

namespace GrammarKit.Expr

variable {β : Type}

/-- The expressions that an expression is made of. -/
def parts : Expr β → List (Expr β)
  | .call _ args | .construct _ _ args => args
  | .ifThenElse condition yes no => [condition, yes, no]
  | .letIn _ value body | .bind _ value _ body => [value, body]
  | .letAll bindings body => body :: bindings.map (·.value)
  | .case subject clauses => subject :: (clauses.map (·.body)).filter fun body => !body.isAbsent
  | .raise value | .lift _ value => [value]
  | .attempt body catches => body :: catches.flatMap fun clause => [clause.test, clause.handler]
  | .block _ steps => steps.map (·.value)
  | _ => []

/-- The one hole is the absent expression. -/
theorem eq_absent_of_isAbsent {expression : Expr β} (hole : expression.isAbsent = true) :
    expression = .absent := by
  cases expression with
  | absent => rfl
  | _ => exact absurd hole Bool.false_ne_true

/-- A part is smaller than its expression. -/
theorem sizeOf_part_lt {expression part : Expr β} (member : part ∈ expression.parts) :
    sizeOf part < sizeOf expression := by
  cases expression with
  | absent | lit | var => exact absurd member List.not_mem_nil
  | call name args | construct name ownTag args =>
    have smaller : sizeOf part < sizeOf args := List.sizeOf_lt_of_mem member
    simp only [call.sizeOf_spec, construct.sizeOf_spec]
    omega
  | ifThenElse | letIn | bind | raise | lift =>
    simp only [parts, List.mem_cons, List.not_mem_nil, or_false] at member
    rcases member with rfl | rfl | rfl <;> simp +arith
  | letAll bindings body =>
    simp only [parts, List.mem_cons, List.mem_map] at member
    obtain rfl | ⟨binding, inside, rfl⟩ := member
    · simp +arith
    · have smaller := List.sizeOf_lt_of_mem inside
      cases binding
      simp only [letAll.sizeOf_spec, Binding.mk.sizeOf_spec] at smaller ⊢
      omega
  | case subject clauses =>
    simp only [parts, List.mem_cons, List.mem_filter, List.mem_map] at member
    obtain rfl | ⟨⟨clause, inside, rfl⟩, -⟩ := member
    · simp +arith
    · have smaller := List.sizeOf_lt_of_mem inside
      cases clause
      simp only [case.sizeOf_spec, Clause.mk.sizeOf_spec] at smaller ⊢
      omega
  | attempt body catches =>
    simp only [parts, List.mem_cons, List.mem_flatMap, List.not_mem_nil, or_false] at member
    obtain rfl | ⟨clause, inside, same⟩ := member
    · simp +arith
    · have smaller := List.sizeOf_lt_of_mem inside
      cases clause
      simp only [attempt.sizeOf_spec, Catch.mk.sizeOf_spec] at smaller same ⊢
      obtain rfl | rfl := same <;> omega
  | block context steps =>
    simp only [parts, List.mem_map] at member
    obtain ⟨step, inside, rfl⟩ := member
    have smaller := List.sizeOf_lt_of_mem inside
    cases step
    simp only [block.sizeOf_spec, Step.mk.sizeOf_spec] at smaller ⊢
    omega

/-- What holds of an expression whenever it holds of all its parts holds of every expression. -/
theorem induction_parts {motive : Expr β → Prop}
    (step : ∀ expression, (∀ part ∈ expression.parts, motive part) → motive expression)
    (expression : Expr β) : motive expression :=
  step expression fun part _ => induction_parts step part
termination_by sizeOf expression
decreasing_by exact sizeOf_part_lt ‹_›

/-! ## The parts inside bindings, clauses, catches and steps -/

section Members

variable {subject body : Expr β} {bindings : List (Binding (Expr β))}
  {clauses : List (Clause β (Expr β))} {catches : List (Catch (Expr β))}
  {steps : List (Step (Expr β))} {context : String}

/-- What is bound is a part. -/
theorem value_mem_parts {binding : Binding (Expr β)} (inside : binding ∈ bindings) :
    binding.value ∈ (letAll bindings body).parts :=
  .tail _ (List.mem_map_of_mem inside)

/-- The body of a clause is a part, unless it is absent. -/
theorem body_mem_parts {clause : Clause β (Expr β)} (inside : clause ∈ clauses)
    (there : clause.body.isAbsent = false) : clause.body ∈ (case subject clauses).parts := by
  refine .tail _ (List.mem_filter.mpr ⟨List.mem_map_of_mem inside, ?_⟩)
  rw [there]
  rfl

/-- The test of a catch is a part. -/
theorem test_mem_parts {clause : Catch (Expr β)} (inside : clause ∈ catches) :
    clause.test ∈ (attempt body catches).parts :=
  .tail _ (List.mem_flatMap_of_mem inside (.head _))

/-- The handler of a catch is a part. -/
theorem handler_mem_parts {clause : Catch (Expr β)} (inside : clause ∈ catches) :
    clause.handler ∈ (attempt body catches).parts :=
  .tail _ (List.mem_flatMap_of_mem inside (.tail _ (.head _)))

/-- What a step evaluates is a part. -/
theorem step_mem_parts {step : Step (Expr β)} (inside : step ∈ steps) :
    step.value ∈ (block context steps).parts :=
  List.mem_map_of_mem inside

end Members

/-- The parts of an expression, each with how many levels it stands below the first ones: a step of
a block as many as there are steps before it. -/
def placedParts : Expr β → List (Expr β × Nat)
  | .block _ steps => (steps.map (·.value)).zipIdx
  | expression => expression.parts.map fun part => (part, 0)

/-- Apart from where they stand, placed parts are the parts. -/
theorem map_fst_placedParts (expression : Expr β) :
    expression.placedParts.map Prod.fst = expression.parts := by
  cases expression with
  | block context steps => exact List.zipIdx_map_fst 0 _
  | _ =>
    rw [placedParts, List.map_map]
    · exact List.map_id _
    · exact nofun

/-- A placed part is a part. -/
theorem mem_parts_of_mem_placedParts {expression : Expr β} {placed : Expr β × Nat}
    (member : placed ∈ expression.placedParts) : placed.1 ∈ expression.parts := by
  rw [← map_fst_placedParts]
  exact List.mem_map_of_mem member

/-- Whether a condition holds of an expression, of its parts, of their parts and so on. -/
inductive Every (condition : Expr β → Prop) : Expr β → Prop where
  /-- The condition holds here and throughout all parts. -/
  | intro {expression : Expr β} (here : condition expression)
      (inside : ∀ part ∈ expression.parts, Every condition part) : Every condition expression

namespace Every

variable {condition weaker : Expr β → Prop} {expression : Expr β}

/-- What holds throughout an expression holds of it. -/
theorem here (every : Every condition expression) : condition expression := by
  obtain ⟨here, -⟩ := every
  exact here

/-- What holds throughout an expression holds throughout its parts. -/
theorem inside (every : Every condition expression) :
    ∀ part ∈ expression.parts, Every condition part := by
  obtain ⟨-, inside⟩ := every
  exact inside

/-- A condition of an expression without parts holds throughout. -/
theorem leaf (none : expression.parts = []) (here : condition expression) :
    Every condition expression := by
  refine .intro here ?_
  rw [none]
  exact List.forall_mem_nil _

/-- A weaker condition holds throughout as well. -/
theorem mono (every : Every condition expression)
    (weaken : ∀ expression, condition expression → weaker expression) :
    Every weaker expression := by
  induction every with
  | intro here inside ih => exact .intro (weaken _ here) ih

/-- Two conditions that hold throughout hold together throughout. -/
theorem and {other : Expr β → Prop} (every : Every condition expression)
    (also : Every other expression) :
    Every (fun expression => condition expression ∧ other expression) expression := by
  induction every with
  | intro here inside ih =>
    exact .intro ⟨here, also.here⟩ fun part member => ih part member (also.inside part member)

end Every

/-! ## Expressions that have a text -/

/-- The parts without whose texts an expression has none. -/
def spelled : Expr β → List (Expr β)
  | .call _ args | .construct _ _ args => args
  | .letAll bindings _ => bindings.map (·.value)
  | .case subject clauses => subject :: (clauses.map (·.body)).filter fun body => !body.isAbsent
  | .attempt body _ => [body]
  | .block _ steps => steps.map (·.value)
  | _ => []

/-- The parts that have to be spelled are parts. -/
theorem spelled_subset_parts (expression : Expr β) : expression.spelled ⊆ expression.parts := by
  cases expression <;> simp [spelled, parts]

variable (boxed : β → String)

/-- Several expressions have texts when each has one. -/
theorem isSome_textsWith? (expressions : List (Expr β)) :
    (textsWith? boxed expressions).isSome ↔
      ∀ expression ∈ expressions, (expression.textWith? boxed).isSome := by
  induction expressions with
  | nil => simp [textsWith?]
  | cons first others ih =>
    rw [List.forall_mem_cons, ← ih, textsWith?]
    cases textWith? boxed first <;> cases textsWith? boxed others <;> simp

/-- Bindings have texts when what they bind has. -/
theorem isSome_bindingTextsWith? (bindings : List (Binding (Expr β))) :
    (bindingTextsWith? boxed bindings).isSome ↔
      ∀ value ∈ bindings.map (·.value), (value.textWith? boxed).isSome := by
  induction bindings with
  | nil => simp [bindingTextsWith?]
  | cons first others ih =>
    rw [List.map_cons, List.forall_mem_cons, ← ih, bindingTextsWith?]
    cases textWith? boxed first.value <;> cases bindingTextsWith? boxed others <;> simp

/-- Clauses have texts when the bodies that are there have. -/
theorem isSome_clauseTextsWith? (clauses : List (Clause β (Expr β))) :
    (clauseTextsWith? boxed clauses).isSome ↔
      ∀ body ∈ (clauses.map (·.body)).filter fun body => !body.isAbsent,
        (body.textWith? boxed).isSome := by
  induction clauses with
  | nil => simp [clauseTextsWith?]
  | cons first others ih =>
    obtain ⟨pattern, body⟩ := first
    cases there : body.isAbsent with
    | true =>
      obtain rfl := eq_absent_of_isAbsent there
      rw [List.map_cons, List.filter_cons_of_neg (by simp [there]), ← ih, clauseTextsWith?]
      cases clauseTextsWith? boxed others <;> simp
    | false =>
      rw [List.map_cons, List.filter_cons_of_pos (by simp [there]), List.forall_mem_cons, ← ih,
        clauseTextsWith?.eq_3 _ _ _ _ (by rintro rfl; exact Bool.noConfusion there)]
      cases textWith? boxed body <;> cases clauseTextsWith? boxed others <;> simp

/-- Steps have texts when what they evaluate has. -/
theorem isSome_stepTextsWith? (steps : List (Step (Expr β))) :
    (stepTextsWith? boxed steps).isSome ↔
      ∀ value ∈ steps.map (·.value), (value.textWith? boxed).isSome := by
  induction steps with
  | nil => simp [stepTextsWith?]
  | cons first others ih =>
    rw [List.map_cons, List.forall_mem_cons, ← ih, stepTextsWith?]
    cases textWith? boxed first.value <;> cases stepTextsWith? boxed others <;> simp

/-- An expression has a text when it is no hole and the parts that have to be spelled have one. -/
theorem isSome_textWith? (expression : Expr β) :
    (expression.textWith? boxed).isSome ↔
      expression.isAbsent = false ∧
        ∀ part ∈ expression.spelled, (part.textWith? boxed).isSome := by
  cases expression with
  | absent | lit | var | ifThenElse | letIn | raise | lift | bind =>
    simp [textWith?, spelled, isAbsent]
  | call name args | construct name ownTag args =>
    rw [spelled, ← isSome_textsWith?, textWith?]
    cases textsWith? boxed args <;> simp [isAbsent]
  | letAll bindings body =>
    rw [spelled, ← isSome_bindingTextsWith?, textWith?]
    cases bindingTextsWith? boxed bindings <;> simp [isAbsent]
  | case subject clauses =>
    rw [spelled, List.forall_mem_cons, ← isSome_clauseTextsWith?, textWith?]
    cases textWith? boxed subject <;> cases clauseTextsWith? boxed clauses <;> simp [isAbsent]
  | attempt body catches =>
    rw [spelled, List.forall_mem_singleton, textWith?]
    cases textWith? boxed body <;> simp [isAbsent]
  | block context steps =>
    rw [spelled, ← isSome_stepTextsWith?, textWith?]
    cases stepTextsWith? boxed steps <;> simp [isAbsent]

/-- Whether an expression has no holes. -/
abbrev Filled (expression : Expr β) : Prop := expression.Every fun part => part.isAbsent = false

/-- An expression without holes has a text. -/
theorem isSome_text?_of_filled [Payload β] {expression : Expr β} (filled : expression.Filled) :
    expression.text?.isSome := by
  induction filled with
  | intro here inside ih =>
    exact (isSome_textWith? _ _).mpr
      ⟨here, fun part spelled => ih part (spelled_subset_parts _ spelled)⟩

end GrammarKit.Expr
