import GrammarKit.Proofs.Likeness
/-!
# What kind of relation equality is

Equality of values is symmetric and transitive when the equality of boxed things is, and a value
equals itself exactly when everything boxed inside it does (`Value.equal_self_iff`). The same holds
of values that may be missing (`Value.equalOptional_partial_equivalence`). Host values are such
boxed things, and those of them that differ from themselves have a NaN inside.
-/

namespace GrammarKit.Value

variable {β : Type}

/-- Whether a thing is boxed in a value or in one of its children, at any depth. -/
inductive Boxes (payload : β) : Value β → Prop where
  /-- The value is the box. -/
  | here : Boxes payload (.box payload)
  /-- The box is inside a child. -/
  | inside {value child : Value β} (member : child ∈ value.children)
      (boxes : Boxes payload child) : Boxes payload value

/-- What is boxed in a composite is boxed in a child. -/
theorem Boxes.exists_child {payload : β} {value : Value β}
    (composite : value.constructor?.isSome) (boxes : value.Boxes payload) :
    ∃ child ∈ value.children, child.Boxes payload := by
  cases boxes with
  | here => cases composite
  | inside member boxes => exact ⟨_, member, boxes⟩

/-- Nothing is boxed in a value without children that is no box. -/
theorem Boxes.not_of_children_eq_nil {payload : β} {value : Value β} (none : value.children = [])
    (other : ∀ held, value ≠ .box held) : ¬ value.Boxes payload := by
  rintro (_ | ⟨member, -⟩)
  · exact other payload rfl
  · rw [none] at member
    cases member

variable [Payload β]

/-- A value equals itself when everything boxed inside it is like itself. -/
theorem equal_self_iff (value : Value β) :
    value.equal value = true ↔
      ∀ payload, value.Boxes payload → Payload.alike payload payload = true := by
  induction value using induction_children with
  | node value ih =>
    rw [equal_iff]
    by_cases composite : value.constructor?.isSome
    · have head : value.sameHead value = true := sameHead_iff.mpr ⟨composite, rfl, rfl⟩
      have noScalar : ¬ ScalarsEqual value value := by
        rintro scalars
        cases scalars <;> cases composite
      rw [List.forall₂_same, and_iff_right head, or_iff_right noScalar]
      constructor
      · intro each payload boxes
        obtain ⟨child, member, boxes⟩ := boxes.exists_child composite
        exact (ih child member).mp (each child member) payload boxes
      · intro all child member
        exact (ih child member).mpr fun payload boxes => all payload (.inside member boxes)
    · have noHead : ¬ value.sameHead value = true := fun head => composite (sameHead_iff.mp head).1
      rw [or_iff_left fun both => noHead both.1]
      cases value with
      | data | list | exception => exact absurd rfl composite
      | box payload =>
        constructor
        · intro scalars other boxes
          obtain _ | ⟨member, -⟩ := boxes
          · cases scalars with
            | box alike => exact alike
          · cases member
        · exact fun all => .box (all payload .here)
      | _ =>
        constructor
        · exact fun _ payload boxes => absurd boxes (Boxes.not_of_children_eq_nil rfl nofun)
        · exact fun _ => by constructor

variable [LawfulPayload β]

/-- Equality of values that may be missing is symmetric and transitive; and a value equals itself,
or is missing like itself, when everything boxed inside it is free of what makes boxed things differ
from themselves. -/
theorem equalOptional_partial_equivalence (free : β → Prop)
    (self : ∀ payload, free payload → Payload.alike payload payload = true)
    (one other third : Option (Value β)) :
    (equalOptional one other = true → equalOptional other one = true) ∧
    (equalOptional one other = true → equalOptional other third = true →
      equalOptional one third = true) ∧
    ((∀ value ∈ one, ∀ payload, value.Boxes payload → free payload) →
      equalOptional one one = true) := by
  refine ⟨?_, ?_, ?_⟩
  · rcases one with - | one <;> rcases other with - | other
    · exact id
    · exact id
    · exact id
    · exact equal_symm
  · rcases one with - | one <;> rcases other with - | other
    · exact fun _ equal => equal
    · exact nofun
    · exact nofun
    · rcases third with - | third
      · exact fun _ => nofun
      · exact equal_trans
  · rcases one with - | one
    · exact fun _ => rfl
    · intro all
      exact (equal_self_iff one).mpr fun payload boxes => self payload (all one rfl payload boxes)

/-- A list with a boxed zero, data with the name of lists and the other zero, and data with their
name and tag: no box has a NaN inside. -/
theorem equalOptional_partial_equivalence_zeros :
    let list : Value Host := .list [.box (.float 0), .int 1]
    let named : Value Host := .data "list" "" [.box (.float (-0)), .int 1]
    let tagged : Value Host := .data "list" "list" [.box (.float 0), .int 1]
    equalOptional (some list) (some named) = true ∧
    equalOptional (some named) (some tagged) = true ∧
    equalOptional (some named) (some list) = true ∧
    equalOptional (some list) (some tagged) = true ∧
    (∀ payload, list.Boxes payload → ∀ number ∈ payload.numbers, number.isNaN = false) ∧
    equalOptional (some list) (some list) = true := by
  intro list named tagged
  have zeros : (Host.float 0).alike (.float (-0)) = true := by
    rw [Host.alike]
    decide
  have zeros' : (Host.float (-0)).alike (.float 0) = true := by
    rw [Host.alike]
    decide
  have first : equalOptional (some list) (some named) = true :=
    equal_iff.mpr (.inr ⟨rfl, .cons zeros (.cons rfl .nil)⟩)
  have second : equalOptional (some named) (some tagged) = true :=
    equal_iff.mpr (.inr ⟨rfl, .cons zeros' (.cons rfl .nil)⟩)
  have free (payload : Host) (boxes : list.Boxes payload) :
      ∀ number ∈ payload.numbers, number.isNaN = false := by
    obtain ⟨child, member, boxes⟩ := boxes.exists_child rfl
    obtain rfl | rfl : child = .box (.float 0) ∨ child = .int 1 := by
      simpa [list, children] using member
    · obtain _ | ⟨member, -⟩ := boxes
      · simp only [Host.numbers, Host.tree, Tree.numbers, Tree.numbersAmong, List.append_nil,
          List.forall_mem_singleton]
        decide
      · cases member
    · exact absurd boxes (Boxes.not_of_children_eq_nil rfl nofun)
  obtain ⟨symm, trans, refl⟩ := equalOptional_partial_equivalence
    (fun payload : Host => ∀ number ∈ payload.numbers, number.isNaN = false)
    (fun payload => (Host.alike_self_iff payload).mpr) (some list) (some named) (some tagged)
  refine ⟨first, second, symm first, trans first second, free, refl ?_⟩
  rintro _ ⟨⟩
  exact free

end GrammarKit.Value
