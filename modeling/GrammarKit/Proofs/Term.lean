import GrammarKit.Grammar.Term
/-!
# Terms and their parts

Terms contain lists of terms, so induction over them goes through the parts of a term. A condition
on terms holds throughout a term (`Term.Every`) when it holds of the term and throughout its parts,
and throughout a grammar (`Grammar.Every`) when it holds throughout the body of each rule.
-/

namespace GrammarKit

namespace Term

/-- The terms that a term is made of. -/
def parts : Term → List Term
  | .always term _ | .token term | .acceptWhen term .. | .optional term _ | .transform term _
  | .transformOrRefuse term _ | .lookAhead term | .not term | .entireInput term
  | .entireInputWith term .. | .many term | .many1 term | .any term | .any1 term
  | .iterate term _ | .foldl term .. | .foldl1 term .. | .named _ term => [term]
  | .seq2 first second | .left first second | .right first second => [first, second]
  | .foldlFrom term first _ => [first, term]
  | .seq3 first second third => [first, second, third]
  | .seq terms | .nthOf _ terms | .firstOf terms => terms
  | _ => []

/-- A part is smaller than its term. -/
theorem sizeOf_part_lt {term part : Term} (member : part ∈ term.parts) :
    sizeOf part < sizeOf term := by
  cases term with
  | seq terms | nthOf index terms | firstOf terms =>
    have smaller : sizeOf part < sizeOf terms := List.sizeOf_lt_of_mem member
    simp only [seq.sizeOf_spec, nthOf.sizeOf_spec, firstOf.sizeOf_spec]
    omega
  | seq2 | seq3 | left | right | foldlFrom =>
    simp only [parts, List.mem_cons, List.not_mem_nil, or_false] at member
    rcases member with rfl | rfl | rfl <;> simp +arith
  | always | token | acceptWhen | optional | transform | transformOrRefuse | lookAhead | not
  | entireInput | entireInputWith | many | many1 | any | any1 | iterate | foldl | foldl1 | named =>
    rw [List.mem_singleton.mp member]
    simp +arith
  | _ => exact absurd member List.not_mem_nil

/-- What holds of a term whenever it holds of all its parts holds of every term. -/
theorem induction_parts {motive : Term → Prop}
    (step : ∀ term, (∀ part ∈ term.parts, motive part) → motive term) (term : Term) :
    motive term :=
  step term fun part _ => induction_parts step part
termination_by sizeOf term
decreasing_by exact sizeOf_part_lt ‹_›

/-- Whether a condition holds of a term, of its parts, of their parts and so on. -/
inductive Every (condition : Term → Prop) : Term → Prop where
  /-- The condition holds here and throughout all parts. -/
  | intro {term : Term} (here : condition term)
      (inside : ∀ part ∈ term.parts, Every condition part) : Every condition term

namespace Every

variable {condition weaker : Term → Prop} {term : Term}

/-- A condition of a term without parts holds throughout. -/
theorem leaf (none : term.parts = []) (here : condition term) : Every condition term := by
  refine .intro here ?_
  rw [none]
  exact List.forall_mem_nil _

/-- A condition of a term with one part and throughout that part holds throughout. -/
theorem single {part : Term} (one : term.parts = [part]) (here : condition term)
    (inside : Every condition part) : Every condition term := by
  refine .intro here ?_
  rw [one]
  exact List.forall_mem_singleton.mpr inside

/-- A condition of a term with two parts and throughout both holds throughout. -/
theorem pair {first second : Term} (two : term.parts = [first, second]) (here : condition term)
    (head : Every condition first) (tail : Every condition second) : Every condition term := by
  refine .intro here ?_
  rw [two]
  exact List.forall_mem_cons.mpr ⟨head, List.forall_mem_singleton.mpr tail⟩

/-- A weaker condition holds throughout as well. -/
theorem mono (every : Every condition term) (weaken : ∀ term, condition term → weaker term) :
    Every weaker term := by
  induction every with
  | intro here inside ih => exact .intro (weaken _ here) ih

/-- A condition that holds of all terms holds throughout each. -/
theorem of_forall (always : ∀ term, condition term) (term : Term) : Every condition term := by
  induction term using induction_parts with
  | step term ih => exact .intro (always term) ih

end Every

/-- Whether the ready-made errors that a term itself refuses values with are all permitted. -/
def RefusesWith (permitted : ParseError → Prop) : Term → Prop
  | .transformOrRefuse _ f => ∀ value error, f value = .error (.error error) → permitted error
  | _ => True

/-- Terms that refuse with permitted errors refuse with errors of any wider permission. -/
theorem RefusesWith.mono {permitted wider : ParseError → Prop}
    (widen : ∀ error, permitted error → wider error) (term : Term)
    (refusals : term.RefusesWith permitted) : term.RefusesWith wider := by
  cases term with
  | transformOrRefuse part f =>
    exact fun value error refused => widen error (refusals value error refused)
  | _ => trivial

/-- Where all errors are permitted, every term refuses with permitted ones. -/
theorem every_refusesWith {permitted : ParseError → Prop} (always : ∀ error, permitted error)
    (term : Term) : term.Every (RefusesWith permitted) := by
  apply Every.of_forall
  intro term
  cases term with
  | transformOrRefuse part f => exact fun value error refused => always error
  | _ => trivial

/-- The parsers of several terms are the parsers of each. -/
theorem parsers_eq_map (rule : String → Parser Host) (terms : List Term) :
    parsers rule terms = terms.map (parser rule) := by
  induction terms with
  | nil => rfl
  | cons first others ih => rw [parsers, ih, List.map_cons]

end Term

namespace Grammar

/-- Whether a condition holds throughout the body of every rule. -/
def Every (condition : Term → Prop) (grammar : Grammar) : Prop :=
  ∀ name body, grammar.rule? name = some body → body.Every condition

/-- The rule of a name is one of the rules. -/
theorem mem_rules_of_rule? {grammar : Grammar} {name : String} {body : Term}
    (found : grammar.rule? name = some body) : (name, body) ∈ grammar.rules := by
  obtain ⟨before, after, rules, -⟩ := List.lookup_eq_some_iff.mp found
  simp [rules]

/-- A condition throughout the rules one by one holds throughout the grammar. -/
theorem every_of_forall_mem {condition : Term → Prop} {grammar : Grammar}
    (all : ∀ entry ∈ grammar.rules, entry.2.Every condition) : grammar.Every condition :=
  fun _ _ found => all _ (mem_rules_of_rule? found)

/-- The parser of a rule that the grammar has, one level down. -/
theorem ruleParser_succ {grammar : Grammar} {name : String} {body : Term}
    (found : grammar.rule? name = some body) (depth : Nat) :
    grammar.ruleParser (depth + 1) name = body.parser (grammar.ruleParser depth) := by
  rw [ruleParser, found]

/-- The parser of a rule that the grammar does not have. -/
theorem ruleParser_missing {grammar : Grammar} {name : String}
    (missing : grammar.rule? name = none) (depth : Nat) :
    grammar.ruleParser (depth + 1) name = .stop (.missingRule name) := by
  rw [ruleParser, missing]

end Grammar

end GrammarKit
