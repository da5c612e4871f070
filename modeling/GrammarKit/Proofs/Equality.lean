import GrammarKit.Value
import Mathlib.Data.List.Forall2
/-!
# The equality that programs see

Two values are equal when they are scalars of one kind with the same content, or composites with the
same head and children that are equal one by one (`Value.equal_iff`). Composites of different shapes
may share a head: data can be named and tagged like a list or an exception. What boxes hold is
compared by a relation of their own, which need not be reflexive, as numbers that are not numbers
differ from themselves. If it is symmetric and transitive then so is the equality of values.
-/

namespace GrammarKit

/-- Boxed things whose equality is symmetric and transitive. -/
class LawfulPayload (β : Type) [Payload β] : Prop where
  /-- Which of two things comes first does not matter. -/
  alike_symm {left right : β} : Payload.alike left right = true → Payload.alike right left = true
  /-- Things that are equal to the same thing are equal. -/
  alike_trans {left middle right : β} : Payload.alike left middle = true →
    Payload.alike middle right = true → Payload.alike left right = true

/-- Boxes that hold texts. -/
instance : Payload String := ⟨id, (· == ·)⟩

instance : LawfulPayload String where
  alike_symm alike := beq_iff_eq.mpr (beq_iff_eq.mp alike).symm
  alike_trans alike alike' := beq_iff_eq.mpr ((beq_iff_eq.mp alike).trans (beq_iff_eq.mp alike'))

namespace Value

variable {β : Type}

/-! ## Children -/

/-- A child is smaller than the composite. -/
theorem sizeOf_lt_of_mem_children {value child : Value β} (member : child ∈ value.children) :
    sizeOf child < sizeOf value := by
  cases value with
  | data name ownTag args =>
    have small : sizeOf child < sizeOf args := List.sizeOf_lt_of_mem member
    rw [data.sizeOf_spec]
    omega
  | list items =>
    have small : sizeOf child < sizeOf items := List.sizeOf_lt_of_mem member
    rw [list.sizeOf_spec]
    omega
  | exception raised =>
    obtain rfl : child = raised := List.mem_singleton.mp member
    rw [exception.sizeOf_spec]
    omega
  | _ => exact absurd member List.not_mem_nil

/-- What holds of a value whenever it holds of its children holds of all values. -/
@[elab_as_elim]
theorem induction_children {motive : Value β → Prop} (value : Value β)
    (node : ∀ value : Value β, (∀ child ∈ value.children, motive child) → motive value) :
    motive value :=
  node value fun child member =>
    have : sizeOf child < sizeOf value := sizeOf_lt_of_mem_children member
    induction_children child node
termination_by sizeOf value

/-! ## What equality compares -/

/-- Two heads are the same when there is a constructor name and it agrees, and the tags agree. -/
theorem sameHead_iff {left right : Value β} :
    left.sameHead right = true ↔
      left.constructor?.isSome ∧ left.constructor? = right.constructor? ∧ left.tag = right.tag := by
  unfold sameHead
  cases left.constructor? with
  | none => simp
  | some one =>
    cases right.constructor? with
    | none => simp
    | some other => simp [and_comm]

variable [Payload β]

/-- Two scalars are of the same kind and have the same content. -/
inductive ScalarsEqual : Value β → Value β → Prop
  /-- Integers. -/
  | int (number : Int64) : ScalarsEqual (.int number) (.int number)
  /-- Truth values. -/
  | bool (truth : Bool) : ScalarsEqual (.bool truth) (.bool truth)
  /-- Symbols of a text. -/
  | char (code : CodePoint) : ScalarsEqual (.char code) (.char code)
  /-- Texts. -/
  | string (text : String) : ScalarsEqual (.string text) (.string text)
  /-- Names. -/
  | symbol (name : String) : ScalarsEqual (.symbol name) (.symbol name)
  /-- Boxes, by what they hold. -/
  | box {left right : β} (alike : Payload.alike left right = true) :
    ScalarsEqual (.box left) (.box right)

/-- Lists of values are equal when they are equal item by item. -/
theorem equalAll_iff {lefts rights : List (Value β)} :
    equalAll lefts rights = true ↔
      List.Forall₂ (fun left right => left.equal right = true) lefts rights := by
  induction lefts generalizing rights with
  | nil => cases rights <;> simp [equalAll]
  | cons left lefts ih => cases rights <;> simp [equalAll, ih]

/-- An exception is compared as any other composite. -/
theorem equal_exception (raised right : Value β) :
    (exception raised).equal right =
      ((exception raised).sameHead right && equalAll [raised] right.children) := by
  rw [equal]
  congr 1
  generalize right.children = children
  rcases children with - | ⟨first, - | ⟨second, others⟩⟩ <;> simp [equalAll]

/-- Equality compares scalars by their content and composites by head and children. -/
theorem equal_iff {left right : Value β} :
    left.equal right = true ↔
      ScalarsEqual left right ∨
        left.sameHead right = true ∧
          List.Forall₂ (fun child child' => child.equal child' = true) left.children
            right.children := by
  fun_cases equal left right with
  | case1 | case2 | case3 | case4 | case5 =>
    rw [beq_iff_eq]
    constructor
    · rintro rfl
      exact .inl (by constructor)
    · rintro (scalars | ⟨head, -⟩)
      · cases scalars
        rfl
      · exact absurd head nofun
  | case6 =>
    constructor
    · intro alike
      exact .inl (.box alike)
    · rintro (scalars | ⟨head, -⟩)
      · cases scalars with
        | box alike => exact alike
      · exact absurd head nofun
  | case7 | case8 =>
    rw [Bool.and_eq_true, equalAll_iff]
    exact ⟨.inr, fun either => either.resolve_left nofun⟩
  | case9 raised =>
    rw [← equal, equal_exception, Bool.and_eq_true, equalAll_iff]
    exact ⟨.inr, fun either => either.resolve_left nofun⟩
  | case10 left right _ _ _ _ _ _ noData noList noException =>
    constructor
    · nofun
    · rintro (scalars | ⟨head, -⟩)
      · cases scalars <;> grind
      · have composite := (sameHead_iff.mp head).1
        cases left with
        | data => exact absurd rfl (noData _ _ _)
        | list => exact absurd rfl (noList _)
        | exception => exact absurd rfl (noException _)
        | _ => exact absurd composite nofun

/-- Equal values have the same tag. -/
theorem tag_eq_of_equal {left right : Value β} (equal : left.equal right = true) :
    left.tag = right.tag := by
  obtain scalars | ⟨head, -⟩ := equal_iff.mp equal
  · cases scalars <;> rfl
  · exact (sameHead_iff.mp head).2.2

/-- Equal values have the same constructor name, or neither has one. -/
theorem constructor?_eq_of_equal {left right : Value β} (equal : left.equal right = true) :
    left.constructor? = right.constructor? := by
  obtain scalars | ⟨head, -⟩ := equal_iff.mp equal
  · cases scalars <;> rfl
  · exact (sameHead_iff.mp head).2.1

/-- Equal values have equal children. -/
theorem children_equal {left right : Value β} (equal : left.equal right = true) :
    List.Forall₂ (fun child child' => child.equal child' = true) left.children right.children := by
  obtain scalars | ⟨-, each⟩ := equal_iff.mp equal
  · cases scalars <;> exact .nil
  · exact each

/-! ## Symmetry and transitivity -/

/-- Relations between the items of two lists, of which the second goes on where the first ends, are
combined item by item. -/
theorem forall₂_comp {α : Type} {first second both : α → α → Prop}
    (combine : ∀ left middle right, first left middle → second middle right → both left right)
    {lefts middles rights : List α} (firsts : List.Forall₂ first lefts middles)
    (seconds : List.Forall₂ second middles rights) : List.Forall₂ both lefts rights := by
  induction firsts generalizing rights with
  | nil =>
    cases seconds with
    | nil => exact .nil
  | cons head _ ih =>
    cases seconds with
    | cons head' tail' => exact .cons (combine _ _ _ head head') (ih tail')

variable [LawfulPayload β] {left middle right : Value β}

/-- Which of two values comes first does not matter. -/
theorem equal_symm (equal : left.equal right = true) : right.equal left = true := by
  induction left using induction_children generalizing right with
  | node left ih =>
    rw [equal_iff] at equal ⊢
    obtain scalars | ⟨head, each⟩ := equal
    · left
      cases scalars with
      | box alike => exact .box (LawfulPayload.alike_symm alike)
      | _ => constructor
    · obtain ⟨composite, names, tags⟩ := sameHead_iff.mp head
      have head' : right.sameHead left = true :=
        sameHead_iff.mpr ⟨names ▸ composite, names.symm, tags.symm⟩
      have turned := (List.forall₂_and_left _ _).mpr ⟨ih, each⟩
      exact .inr ⟨head', .flip (turned.imp fun _ _ both => both.1 both.2)⟩

/-- Values that are equal to the same value are equal. -/
theorem equal_trans (equal : left.equal middle = true) (equal' : middle.equal right = true) :
    left.equal right = true := by
  induction left using induction_children generalizing middle right with
  | node left ih =>
    rw [equal_iff] at equal equal' ⊢
    obtain scalars | ⟨head, each⟩ := equal
    · left
      obtain scalars' | ⟨head', -⟩ := equal'
      · cases scalars with
        | box alike =>
          cases scalars' with
          | box alike' => exact .box (LawfulPayload.alike_trans alike alike')
        | _ => exact scalars'
      · cases scalars <;> exact absurd head' nofun
    · obtain ⟨composite, names, tags⟩ := sameHead_iff.mp head
      obtain scalars' | ⟨head', each'⟩ := equal'
      · cases scalars' <;> exact absurd (names ▸ composite) nofun
      · obtain ⟨-, names', tags'⟩ := sameHead_iff.mp head'
        have onwards := (List.forall₂_and_left _ _).mpr ⟨ih, each⟩
        refine .inr ⟨sameHead_iff.mpr ⟨composite, names.trans names', tags.trans tags'⟩, ?_⟩
        exact forall₂_comp (fun _ _ _ both last => both.1 both.2 last) onwards each'

end Value

end GrammarKit
