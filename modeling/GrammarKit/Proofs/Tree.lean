import GrammarKit.Host
/-!
# Trees with numbers at their leaves

Host values, values, patterns and expressions contain one another, and each has an equality of its
own that follows its constructors. All four can be written as trees of one kind, whose nodes carry
marks that are simply equal or not and whose leaves are floating-point numbers. Two numbers are
equal when they stand for the same (`Number.beq_iff_reading?_eq`), and a NaN stands for nothing.
Equality of trees is therefore symmetric and transitive, and a tree equals itself exactly when none
of its numbers is a NaN.
-/

namespace GrammarKit

namespace Number

open Float.Model (UnpackedFloat)

/-- What a floating-point number stands for: nothing when it is a NaN, and otherwise a sign and, for
a finite number, a mantissa and an exponent. Both zeros stand for the same. -/
def reading? (number : Float) : Option (UnpackedFloat.Sign × Option (Nat × Int)) :=
  match number.toModel.unpack with
  | .notANumber => none
  | .infinity sign => some (sign, none)
  | .zero _ => some (.positive, some (0, 0))
  | .finite sign mantissa exponent _ => some (sign, some (mantissa, exponent))

/-- Numbers are equal when they stand for the same. -/
theorem beq_iff_reading?_eq {number number' : Float} :
    (number == number') = true ↔
      ∃ reading, reading? number = some reading ∧ reading? number' = some reading := by
  change (number.toModel.unpack.compare number'.toModel.unpack == some .eq) = true ↔ _
  delta UnpackedFloat.compare reading?
  generalize number.toModel.unpack = left, number'.toModel.unpack = right
  -- Signs decide the comparison, and between finite numbers of one sign exponents and mantissas.
  cases left with
  | notANumber => simp
  | zero sign =>
    cases right with
    | infinity sign' => cases sign' <;> simp
    | finite sign' mantissa' exponent' positive' =>
      cases sign' <;> dsimp only <;> simp [Nat.ne_of_gt positive']
    | _ => simp
  | infinity sign =>
    cases right with
    | infinity sign' => cases sign <;> cases sign' <;> simp <;> rfl
    | _ => cases sign <;> dsimp only <;> simp
  | finite sign mantissa exponent positive =>
    cases right with
    | infinity sign' => cases sign <;> cases sign' <;> dsimp only <;> simp
    | finite sign' mantissa' exponent' positive' =>
      cases sign <;> cases sign' <;> dsimp only <;>
        simp [and_comm, eq_comm (a := mantissa), eq_comm (a := exponent)]
    | _ => cases sign <;> dsimp only <;> simp [Nat.ne_of_lt positive]

/-- A number equals itself unless it is a NaN. -/
theorem beq_self_iff {number : Float} : (number == number) = true ↔ number.isNaN = false := by
  rw [beq_iff_reading?_eq]
  change _ ↔ number.toModel.unpack.isNaN = false
  unfold reading?
  cases number.toModel.unpack with
  | notANumber => exact iff_of_false nofun nofun
  | _ => exact iff_of_true ⟨_, rfl, rfl⟩ rfl

end Number

/-- A mark on a node. -/
inductive Mark where
  /-- A truth value. -/
  | flag (truth : Bool)
  /-- An integer. -/
  | int (number : Int64)
  /-- An octet. -/
  | octet (number : UInt8)
  /-- An integer without a sign. -/
  | unsigned (number : UInt64)
  /-- A text. -/
  | word (text : String)
  /-- A run of symbols. -/
  | symbols (codes : List CodePoint)
  /-- A date or a time. -/
  | moment (moment : Moment)
deriving DecidableEq

/-- A tree. -/
inductive Tree where
  /-- A floating-point number. -/
  | leaf (number : Float)
  /-- A node of a kind. -/
  | node (kind : Nat) (marks : List Mark) (branches : List Tree)

namespace Tree

mutual

/-- Whether two trees have the same nodes and equal numbers. -/
def alike : Tree → Tree → Bool
  | .leaf left, .leaf right => left == right
  | .node kind marks branches, .node kind' marks' branches' =>
    kind == kind' && marks == marks' && alikeAll branches branches'
  | _, _ => false

/-- `alike` tree by tree. -/
def alikeAll : List Tree → List Tree → Bool
  | [], [] => true
  | left :: lefts, right :: rights => alike left right && alikeAll lefts rights
  | _, _ => false

end

mutual

/-- The numbers at the leaves. -/
def numbers : Tree → List Float
  | .leaf number => [number]
  | .node _ _ branches => numbersAmong branches

/-- The numbers at the leaves of several trees. -/
def numbersAmong : List Tree → List Float
  | [] => []
  | first :: others => numbers first ++ numbersAmong others

end

mutual

/-- Which of two trees comes first does not matter. -/
theorem alike_symm {left right : Tree} (equal : left.alike right = true) :
    right.alike left = true := by
  cases left with
  | leaf number =>
    cases right with
    | leaf number' =>
      obtain ⟨reading, here, there⟩ := Number.beq_iff_reading?_eq.mp equal
      exact Number.beq_iff_reading?_eq.mpr ⟨reading, there, here⟩
    | node => cases equal
  | node kind marks branches =>
    cases right with
    | leaf => cases equal
    | node kind' marks' branches' =>
      simp only [alike, Bool.and_eq_true, beq_iff_eq] at equal ⊢
      exact ⟨⟨equal.1.1.symm, equal.1.2.symm⟩, alikeAll_symm equal.2⟩

/-- `alike_symm` tree by tree. -/
theorem alikeAll_symm {lefts rights : List Tree} (equal : alikeAll lefts rights = true) :
    alikeAll rights lefts = true := by
  cases lefts with
  | nil =>
    cases rights with
    | nil => rfl
    | cons => cases equal
  | cons left lefts =>
    cases rights with
    | nil => cases equal
    | cons right rights =>
      simp only [alikeAll, Bool.and_eq_true] at equal ⊢
      exact ⟨alike_symm equal.1, alikeAll_symm equal.2⟩

end

mutual

/-- Trees that are equal to the same tree are equal. -/
theorem alike_trans {left middle right : Tree} (equal : left.alike middle = true)
    (equal' : middle.alike right = true) : left.alike right = true := by
  cases left with
  | leaf number =>
    cases middle with
    | leaf number' =>
      cases right with
      | leaf number'' =>
        obtain ⟨reading, first, second⟩ := Number.beq_iff_reading?_eq.mp equal
        obtain ⟨reading', second', third⟩ := Number.beq_iff_reading?_eq.mp equal'
        obtain rfl : reading = reading' := Option.some.inj (second.symm.trans second')
        exact Number.beq_iff_reading?_eq.mpr ⟨reading, first, third⟩
      | node => cases equal'
    | node => cases equal
  | node kind marks branches =>
    cases middle with
    | leaf => cases equal
    | node kind' marks' branches' =>
      cases right with
      | leaf => cases equal'
      | node kind'' marks'' branches'' =>
        simp only [alike, Bool.and_eq_true, beq_iff_eq] at equal equal' ⊢
        obtain ⟨⟨rfl, rfl⟩, each⟩ := equal
        exact ⟨equal'.1, alikeAll_trans each equal'.2⟩

/-- `alike_trans` tree by tree. -/
theorem alikeAll_trans {lefts middles rights : List Tree} (equal : alikeAll lefts middles = true)
    (equal' : alikeAll middles rights = true) : alikeAll lefts rights = true := by
  cases lefts with
  | nil =>
    cases middles with
    | nil => exact equal'
    | cons => cases equal
  | cons left lefts =>
    cases middles with
    | nil => cases equal
    | cons middle middles =>
      cases rights with
      | nil => cases equal'
      | cons right rights =>
        simp only [alikeAll, Bool.and_eq_true] at equal equal' ⊢
        exact ⟨alike_trans equal.1 equal'.1, alikeAll_trans equal.2 equal'.2⟩

end

mutual

/-- A tree equals itself when none of its numbers is a NaN. -/
theorem alike_self_iff (tree : Tree) :
    tree.alike tree = true ↔ ∀ number ∈ tree.numbers, number.isNaN = false := by
  cases tree with
  | leaf number =>
    rw [alike, numbers, List.forall_mem_singleton, Number.beq_self_iff]
  | node kind marks branches =>
    rw [alike, numbers, ← alikeAll_self_iff branches]
    simp

/-- `alike_self_iff` tree by tree. -/
theorem alikeAll_self_iff (trees : List Tree) :
    alikeAll trees trees = true ↔ ∀ number ∈ numbersAmong trees, number.isNaN = false := by
  cases trees with
  | nil => simp [alikeAll, numbersAmong]
  | cons first others =>
    rw [alikeAll, numbersAmong, List.forall_mem_append, Bool.and_eq_true, alike_self_iff first,
      alikeAll_self_iff others]

end

end Tree

end GrammarKit
