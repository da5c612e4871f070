import GrammarKit.Host
import GrammarKit.Proofs.Equality
import GrammarKit.Proofs.Matching
/-!
# Equal values that patterns tell apart

Patterns ask for the variant of a composite, equality compares heads. So equal values need not match
the same patterns: a list equals data named like a list with the same children, and only one of them
matches a list pattern. What is missing is that the two values have the same shape at every depth
(`Value.SameShape`). Between equal values of the same shape no pattern makes a difference, and equal
values between which none does have the same shape (`Value.indistinguishable_iff_sameShape`).
-/

namespace GrammarKit

variable {β : Type}

namespace Value

/-- Two values have the same shape, and so have their children one by one. -/
inductive SameShape : Value β → Value β → Prop
  /-- The shapes agree at the top and at the children. -/
  | node {left right : Value β} (shape : left.shape = right.shape)
      (children : List.Forall₂ SameShape left.children right.children) : SameShape left right

namespace SameShape

variable {left right : Value β}

/-- The shapes agree at the top. -/
theorem shape_eq : left.SameShape right → left.shape = right.shape
  | .node shape _ => shape

/-- The shapes agree at the children. -/
theorem children_sameShape :
    left.SameShape right → List.Forall₂ SameShape left.children right.children
  | .node _ children => children

/-- Which of two values comes first does not matter. -/
theorem symm (same : left.SameShape right) : right.SameShape left := by
  induction left using induction_children generalizing right with
  | node left ih =>
    have turned := (List.forall₂_and_left _ _).mpr ⟨ih, same.children_sameShape⟩
    exact .node same.shape_eq.symm (.flip (turned.imp fun _ _ both => both.1 both.2))

end SameShape

end Value

variable [Payload β]

/-- Two bindings are of the same name and to equal values. -/
def SameBinding (entry entry' : String × Value β) : Prop :=
  entry.1 = entry'.1 ∧ entry.2.equal entry'.2 = true

/-- Two environments bind the same names, in the same order and to equal values. -/
def Env.SameBindings (env env' : Env β) : Prop :=
  List.Forall₂ SameBinding env.bindings env'.bindings

namespace Value

/-- Two values are both exceptions or neither is, both lists or neither is, and match the same
patterns, which bind the same variables to equal values. -/
structure Indistinguishable (left right : Value β) : Prop where
  /-- Both are exceptions, or neither is. -/
  exceptions : left.isException = right.isException
  /-- Both are lists, or neither is. -/
  lists : left.shape = .list ↔ right.shape = .list
  /-- A pattern matches both, with the same bindings, or neither. -/
  matches_same : ∀ pattern : Pattern β,
    Option.Rel Env.SameBindings (pattern.unify left) (pattern.unify right)

end Value

/-! ## Same shapes match the same patterns -/

/-- Tables with the same bindings have equal values for a name. -/
theorem lookup_sameBinding {entries entries' : List (String × Value β)}
    (same : List.Forall₂ SameBinding entries entries') (name : String) :
    Option.Rel (fun value value' => value.equal value' = true) (entries.lookup name)
      (entries'.lookup name) := by
  induction same with
  | nil => exact .none
  | @cons entry entry' _ _ head _ ih =>
    obtain ⟨own, value⟩ := entry
    obtain ⟨_, value'⟩ := entry'
    obtain ⟨rfl, equal⟩ := head
    rw [lookup_cons_eq_ite, lookup_cons_eq_ite]
    by_cases here : name = own
    · rw [if_pos here, if_pos here]
      exact .some equal
    · rw [if_neg here, if_neg here]
      exact ih

/-- Whether a value equals another is up to equality. -/
theorem Value.equal_congr [LawfulPayload β] {left right left' right' : Value β}
    (lefts : left.equal left' = true) (rights : right.equal right' = true) :
    left.equal right = left'.equal right' := by
  rw [Bool.eq_iff_iff]
  constructor
  · intro equal
    exact equal_trans (equal_symm lefts) (equal_trans equal rights)
  · intro equal
    exact equal_trans lefts (equal_trans equal (equal_symm rights))

namespace Pattern

/-- What was met is gathered to the same bindings, whichever of equal values were met. -/
theorem gather_of_sameBinding [LawfulPayload β] {bound bound' found : Env β}
    {met met' : List (String × Value β)} (bounds : bound.SameBindings bound')
    (mets : List.Forall₂ SameBinding met met') (gathered : gather bound met = some found) :
    ∃ found', gather bound' met' = some found' ∧ found.SameBindings found' := by
  induction mets generalizing bound bound' with
  | nil =>
    obtain rfl : bound = found := Option.some.inj gathered
    exact ⟨bound', rfl, bounds⟩
  | @cons occurrence occurrence' others others' head _ ih =>
    obtain ⟨name, value⟩ := occurrence
    obtain ⟨_, value'⟩ := occurrence'
    obtain ⟨rfl, equal⟩ := head
    have looked : Option.Rel _ (bound.lookup name) (bound'.lookup name) :=
      lookup_sameBinding bounds name
    rw [gather_cons, unifyFrom] at gathered ⊢
    generalize bound.lookup name = earlier?, bound'.lookup name = earlier'? at looked gathered ⊢
    cases looked with
    | none =>
      have bounds : (bound.bind name value).SameBindings (bound'.bind name value') :=
        .cons ⟨rfl, equal⟩ bounds
      exact ih bounds gathered
    | @some earlier earlier' equal' =>
      have agree : earlier.equal value = earlier'.equal value' := Value.equal_congr equal' equal
      simp only [agree] at gathered ⊢
      by_cases same : earlier'.equal value' = true
      · rw [if_pos same] at gathered ⊢
        exact ih bounds gathered
      · rw [if_neg same] at gathered
        exact absurd gathered nofun

mutual

/-- A pattern that fits a value fits an equal value of the same shape, and its variables meet equal
values. -/
theorem Meets.of_equal [LawfulPayload β] {pattern : Pattern β} {value value' : Value β}
    {met : List (String × Value β)} (meets : pattern.Meets value met)
    (equal : value.equal value' = true) (same : value.SameShape value') :
    ∃ met', pattern.Meets value' met' ∧ List.Forall₂ SameBinding met met' := by
  have equals := Value.children_equal equal
  have sames := same.children_sameShape
  have tags := Value.tag_eq_of_equal equal
  cases meets with
  | lit wanted => exact ⟨[], .lit (Value.equal_trans wanted equal), .nil⟩
  | var name => exact ⟨[(name, value')], .var name value', .cons ⟨rfl, equal⟩ .nil⟩
  | any => exact ⟨[], .any value', .nil⟩
  | tagged =>
    rw [tags]
    exact ⟨[], .tagged value', .nil⟩
  | data tagged each =>
    cases value' with
    | data =>
      obtain rfl := Option.some.inj (Value.constructor?_eq_of_equal equal)
      obtain ⟨met', each', mets⟩ := each.of_equal equals sames
      exact ⟨met', .data (tags ▸ tagged) each', mets⟩
    | _ => exact absurd same.shape_eq nofun
  | list each =>
    cases value' with
    | list =>
      obtain ⟨met', each', mets⟩ := each.of_equal equals sames
      exact ⟨met', .list each', mets⟩
    | _ => exact absurd same.shape_eq nofun
  | exception inner =>
    cases value' with
    | exception =>
      obtain ⟨equal, -⟩ := List.forall₂_cons.mp equals
      obtain ⟨same, -⟩ := List.forall₂_cons.mp sames
      obtain ⟨met', inner', mets⟩ := inner.of_equal equal same
      exact ⟨met', .exception inner', mets⟩
    | _ => exact absurd same.shape_eq nofun

/-- Patterns that fit values one by one fit equal values of the same shapes, and their variables
meet equal values. -/
theorem MeetsEach.of_equal [LawfulPayload β] {patterns : List (Pattern β)}
    {values values' : List (Value β)} {met : List (String × Value β)}
    (each : MeetsEach patterns values met)
    (equals : List.Forall₂ (fun value value' => value.equal value' = true) values values')
    (sames : List.Forall₂ Value.SameShape values values') :
    ∃ met', MeetsEach patterns values' met' ∧ List.Forall₂ SameBinding met met' := by
  cases each with
  | nil =>
    cases equals with
    | nil => exact ⟨[], .nil, .nil⟩
  | cons first others =>
    cases equals with
    | cons equal equals =>
      obtain ⟨same, sames⟩ := List.forall₂_cons.mp sames
      obtain ⟨met, first', mets⟩ := first.of_equal equal same
      obtain ⟨met', others', mets'⟩ := others.of_equal equals sames
      exact ⟨met ++ met', .cons first' others', List.rel_append mets mets'⟩

end

/-- A match of a value is a match of an equal value of the same shape, with the same bindings. -/
theorem unify_of_equal [LawfulPayload β] {pattern : Pattern β} {value value' : Value β}
    {found : Env β} (equal : value.equal value' = true) (same : value.SameShape value')
    (matched : pattern.unify value = some found) :
    ∃ found', pattern.unify value' = some found' ∧ found.SameBindings found' := by
  obtain ⟨met, meets, gathered⟩ := unifyFrom_eq_some_iff.mp matched
  obtain ⟨met', meets', mets⟩ := meets.of_equal equal same
  have bounds : (Env.empty : Env β).SameBindings Env.empty := .nil
  obtain ⟨found', gathered', bindings⟩ := gather_of_sameBinding bounds mets gathered
  exact ⟨found', unifyFrom_eq_some_iff.mpr ⟨met', meets', gathered'⟩, bindings⟩

/-- Equal values of the same shape match the same patterns, with the same bindings. -/
theorem unify_sameBindings [LawfulPayload β] {value value' : Value β}
    (equal : value.equal value' = true) (same : value.SameShape value') (pattern : Pattern β) :
    Option.Rel Env.SameBindings (pattern.unify value) (pattern.unify value') := by
  cases matched : pattern.unify value with
  | some found =>
    obtain ⟨found', matched', bindings⟩ := unify_of_equal equal same matched
    rw [matched']
    exact .some bindings
  | none =>
    cases matched' : pattern.unify value' with
    | none => exact .none
    | some found' =>
      obtain ⟨found, matched'', -⟩ := unify_of_equal (Value.equal_symm equal) same.symm matched'
      exact absurd (matched.symm.trans matched'') nofun

/-! ## Values of other shapes are told apart -/

mutual

/-- The pattern for the composites of a value, with a wildcard for every scalar. -/
def outline : Value β → Pattern β
  | .data name _ args => .data name "" (outlineAll args)
  | .list items => .list (outlineAll items)
  | .exception raised => .exception (outline raised)
  | _ => .any

/-- The outlines of values one by one. -/
def outlineAll : List (Value β) → List (Pattern β)
  | [] => []
  | first :: others => outline first :: outlineAll others

end

mutual

/-- An outline fits the value that it is taken from. -/
theorem outline_meets : (value : Value β) → (outline value).Meets value []
  | .data _ _ args => .data (.inl rfl) (outlineAll_meets args)
  | .list items => .list (outlineAll_meets items)
  | .exception raised => .exception (outline_meets raised)
  | .int _ | .bool _ | .char _ | .string _ | .symbol _ | .box _ => .any _

/-- Outlines fit the values that they are taken from. -/
theorem outlineAll_meets : (values : List (Value β)) → MeetsEach (outlineAll values) values []
  | [] => .nil
  | first :: others => .cons (outline_meets first) (outlineAll_meets others)

end

mutual

/-- An equal value that the outline of a value fits has the same shape. -/
theorem Meets.sameShape {value value' : Value β} {met : List (String × Value β)}
    (meets : (outline value).Meets value' met) (equal : value.equal value' = true) :
    value.SameShape value' := by
  have equals := Value.children_equal equal
  cases value with
  | data =>
    cases meets with
    | data _ each => exact .node rfl (each.sameShape equals)
  | list =>
    cases meets with
    | list each => exact .node rfl (each.sameShape equals)
  | exception =>
    cases meets with
    | exception inner =>
      obtain ⟨equal, -⟩ := List.forall₂_cons.mp equals
      exact .node rfl (.cons (inner.sameShape equal) .nil)
  | _ =>
    -- The outline of a scalar fits anything, so its shape comes from equality alone.
    obtain scalars | ⟨head, -⟩ := Value.equal_iff.mp equal
    · cases scalars
      all_goals exact .node rfl .nil
    · exact absurd head nofun

/-- Equal values that the outlines of values fit have the same shapes. -/
theorem MeetsEach.sameShape {values values' : List (Value β)} {met : List (String × Value β)}
    (each : MeetsEach (outlineAll values) values' met)
    (equals : List.Forall₂ (fun value value' => value.equal value' = true) values values') :
    List.Forall₂ Value.SameShape values values' := by
  cases equals with
  | nil => exact .nil
  | cons equal equals =>
    cases each with
    | cons first others => exact .cons (first.sameShape equal) (others.sameShape equals)

end

end Pattern

/-! ## What it takes to be told apart -/

namespace Value

/-- Equal values cannot be told apart by patterns, or by whether they are exceptions or lists,
exactly when they have the same shape at every depth. -/
theorem indistinguishable_iff_sameShape [LawfulPayload β] {left right : Value β}
    (equal : left.equal right = true) : left.Indistinguishable right ↔ left.SameShape right := by
  constructor
  · intro alike
    have matched : (Pattern.outline left).unify left = some Env.empty :=
      Pattern.unifyFrom_eq_some_iff.mpr ⟨[], Pattern.outline_meets left, rfl⟩
    have related := alike.matches_same (Pattern.outline left)
    rw [matched] at related
    cases matched' : (Pattern.outline left).unify right with
    | none =>
      rw [matched'] at related
      exact absurd related nofun
    | some found =>
      obtain ⟨met, meets, -⟩ := Pattern.unifyFrom_eq_some_iff.mp matched'
      exact meets.sameShape equal
  · intro same
    refine ⟨?_, by rw [same.shape_eq], Pattern.unify_sameBindings equal same⟩
    have raised (value : Value β) : value.isException = (value.shape == .exception) := by
      cases value <;> rfl
    rw [raised, raised, same.shape_eq]

/-- Data that carries its name as its tag and data that carries no tag are equal, and no pattern
tells them apart. -/
theorem indistinguishable_iff_sameShape_tagged :
    (data "pair" "" [int 1, box "x"]).equal (data "pair" "pair" [int 1, box "x"]) = true ∧
      (data "pair" "" [int 1, box "x"]).Indistinguishable
        (data "pair" "pair" [int 1, box "x"]) := by
  have equal :
      (data "pair" "" [int 1, box "x"]).equal (data "pair" "pair" [int 1, box "x"]) = true := by
    decide
  have same : (data "pair" "" [int 1, box "x"]).SameShape (data "pair" "pair" [int 1, box "x"]) :=
    .node rfl (.cons (.node rfl .nil) (.cons (.node rfl .nil) .nil))
  exact ⟨equal, (indistinguishable_iff_sameShape equal).mpr same⟩

/-- Equality alone promises nothing about exceptions, lists or patterns: data may be named like an
exception or like a list, and then equals one. -/
theorem not_indistinguishable_of_equal :
    (¬ ∀ left right : Value Host, left.equal right = true → left.isException = right.isException) ∧
      (¬ ∀ left right : Value Host, left.equal right = true →
        (left.shape = .list ↔ right.shape = .list)) ∧
      ¬ ∀ left right : Value Host, left.equal right = true → ∀ pattern : Pattern Host,
        Option.Rel Env.SameBindings (pattern.unify left) (pattern.unify right) := by
  have raised : (exception (int 1) : Value Host).equal (data "exception" "" [int 1]) = true := by
    decide
  have listed : (list [int 1] : Value Host).equal (data "list" "" [int 1]) = true := by decide
  refine ⟨fun alike => ?_, fun alike => ?_, fun alike => ?_⟩
  · exact absurd (alike _ _ raised) nofun
  · exact absurd ((alike _ _ listed).mp rfl) nofun
  · have related := alike _ _ listed (.list [.any])
    have matched : (Pattern.list [.any]).unify (list [int 1] : Value Host) = some Env.empty := rfl
    have missed : (Pattern.list [.any]).unify (data "list" "" [int 1] : Value Host) = none := rfl
    rw [matched, missed] at related
    exact absurd related nofun

end Value

end GrammarKit
