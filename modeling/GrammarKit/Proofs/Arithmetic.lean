import GrammarKit.Host
import GrammarKit.Proofs.Nesting
import GrammarKit.Proofs.Simultaneous
import Mathlib.Data.Int.ModEq
/-!
# Integer arithmetic

Integers wrap around at 64 bits. Sums, differences, products and negations are therefore those of a
ring of residues, and taking residues commutes with them. However often a calculation wraps on its
way, it comes to the residue of its exact value (`Evaluator.outcome_of_calculates`).

Division is not an operation of that ring. It drops the fraction of the exact quotient, and what it
leaves over has the sign of what is divided. The one quotient that does not fit, that of the least
integer by minus one, wraps like a product, so that the quotient times the divisor and what is left
over always give back what was divided (`Function.division_law`).
-/

namespace GrammarKit

variable {β : Type}

/-! ## Calls -/

/-- A run that comes to a value goes on with it. -/
theorem Run.Means.goOn {run : Run (Value β)} {value : Value β} {meaning : Meaning β (Value β)}
    (means : run.Means (.ok value)) {next : Value β → Run (Value β)}
    (after : (next value).Means meaning) : (run.unlessRaised next).Means meaning := by
  intro ledger
  obtain ⟨gives, ordinary⟩ := Meaning.eq_ok_of_ofOutcome (means ledger)
  unfold outcome at gives ⊢
  rw [run_unlessRaised]
  generalize run.run.run ledger = ended at gives ⊢
  obtain ⟨result, left⟩ := ended
  obtain rfl : result = .ok value := gives
  simp only [ordinary, Bool.false_eq_true, ↓reduceIte]
  exact after left

namespace Evaluator

variable [Payload β] {evaluator : Evaluator β} {env : Env β} {depth : Nat}

/-- Whether an expression taken up at a depth stays within the limit with all it is made of. -/
def HasRoom (evaluator : Evaluator β) (expression : Expr β) (depth : Nat) : Prop :=
  0 < evaluator.maxDepth → ((depth + expression.nesting : Nat) : Int) ≤ evaluator.maxDepth.toInt

omit [Payload β] in
/-- An expression that has room is not past the limit. -/
theorem HasRoom.not_beyond {expression : Expr β} (room : evaluator.HasRoom expression depth) :
    ¬ evaluator.Beyond depth := by
  rintro ⟨limited, past⟩
  have fits := room limited
  omega

omit [Payload β] in
/-- The arguments of a call that has room have room one level below it. -/
theorem HasRoom.arg {name : String} {args : List (Expr β)}
    (room : evaluator.HasRoom (.call name args) depth) {arg : Expr β} (member : arg ∈ args) :
    evaluator.HasRoom arg (depth + 1) := by
  intro limited
  have fits := room limited
  have placed : (arg, 0) ∈ (Expr.call name args).placedParts := List.mem_map_of_mem member
  have lower : arg.nesting + 0 < (Expr.call name args).nesting := Expr.nesting_part_lt placed
  omega

/-- Arguments that come to values are handed on together, after those already gathered. -/
theorem means_evalArgs {args : List (Expr β)} {values : List (Value β)}
    (each : List.Forall₂
      (fun arg value => (evaluator.evalAt arg env depth).Means (.ok value)) args values)
    (gathered : List (Value β)) {next : List (Value β) → Run (Value β)}
    {meaning : Meaning β (Value β)} (after : (next (gathered ++ values)).Means meaning) :
    (evaluator.evalArgs args env depth gathered next).Means meaning := by
  induction each generalizing gathered with
  | nil =>
    rw [evalArgs]
    rwa [List.append_nil] at after
  | cons first others ih =>
    rw [evalArgs]
    refine first.goOn (ih (gathered ++ [_]) ?_)
    rwa [List.append_assoc]

/-- A call whose arguments come to values comes to what its function gives for them. -/
theorem means_call {name : String} {gives : List (Value β) → Value β}
    (found : evaluator.function? name = some fun args => pure (gives args))
    (within : ¬ evaluator.Beyond depth) {args : List (Expr β)} {values : List (Value β)}
    (each : List.Forall₂
      (fun arg value => (evaluator.evalAt arg env (depth + 1)).Means (.ok value)) args values) :
    (evaluator.evalAt (.call name args) env depth).Means (.give (gives values)) := by
  have shown (traced : evaluator.trace = true) : (Expr.call name args).text?.isSome := by
    rw [Expr.text?, Expr.isSome_textWith?, Expr.spelled]
    refine ⟨rfl, ?_⟩
    induction each with
    | nil => exact List.forall_mem_nil _
    | cons first others ih =>
      exact List.forall_mem_cons.mpr ⟨isSome_text?_of_means traced (first {}), ih⟩
  have looked : evaluator.functionFor name = pure fun args => pure (gives args) := by
    rw [functionFor, found]
  rw [evalAt, looked, pure_bind]
  exact means_takeUp within shown (means_evalArgs each [] (.give (gives values)))

/-- A call of a function of two integers whose arguments come to integers comes to what the
operation gives for them. -/
theorem means_call_onIntegers {name : String} {operation : Int64 → Int64 → Value β}
    (found : evaluator.function? name =
      some fun args => pure (Function.onIntegers name operation args)) {first second : Expr β}
    (room : evaluator.HasRoom (.call name [first, second]) depth) {left right : Int64}
    (head : evaluator.HasRoom first (depth + 1) →
      (evaluator.evalAt first env (depth + 1)).Means (.ok (.int left)))
    (last : evaluator.HasRoom second (depth + 1) →
      (evaluator.evalAt second env (depth + 1)).Means (.ok (.int right))) :
    (evaluator.evalAt (.call name [first, second]) env depth).Means
      (.give (operation left right)) :=
  means_call found room.not_beyond
    (.cons (head (room.arg (.head _))) (.cons (last (room.arg (.tail _ (.head _)))) .nil))

end Evaluator

/-! ## Calculations -/

/-- Whether an expression is a calculation with an exact value: integers, names bound to integers,
and sums, differences, products and negations of calculations. -/
inductive Expr.Calculates (env : Env β) : Expr β → Int → Prop where
  /-- An integer. -/
  | literal (number : Int64) : Calculates env (.lit (.int number)) number.toInt
  /-- A name bound to an integer. -/
  | name {name : String} {number : Int64} (bound : env.lookup name = some (.int number)) :
      Calculates env (.var name) number.toInt
  /-- A sum. -/
  | plus {first second : Expr β} {exact exact' : Int} (left : Calculates env first exact)
      (right : Calculates env second exact') :
      Calculates env (.call "plus" [first, second]) (exact + exact')
  /-- A difference. -/
  | minus {first second : Expr β} {exact exact' : Int} (left : Calculates env first exact)
      (right : Calculates env second exact') :
      Calculates env (.call "minus" [first, second]) (exact - exact')
  /-- A product. -/
  | times {first second : Expr β} {exact exact' : Int} (left : Calculates env first exact)
      (right : Calculates env second exact') :
      Calculates env (.call "times" [first, second]) (exact * exact')
  /-- A negation. -/
  | negate {only : Expr β} {exact : Int} (inner : Calculates env only exact) :
      Calculates env (.call "negate" [only]) (-exact)

namespace Evaluator

variable [Payload β] {evaluator : Evaluator β} {env : Env β}

/-- A calculation that has room comes to the residue of its exact value. -/
theorem means_of_calculates
    (standard : ∀ name ∈ ["plus", "minus", "times", "negate"],
      evaluator.function? name = Function.builtIn.lookup name)
    {expression : Expr β} {exact : Int} (calculates : expression.Calculates env exact) {depth : Nat}
    (room : evaluator.HasRoom expression depth) :
    (evaluator.evalAt expression env depth).Means (.ok (.int (.ofInt exact))) := by
  induction calculates generalizing depth with
  | literal number =>
    rw [evalAt, Int64.ofInt_toInt]
    exact means_takeUp room.not_beyond (fun _ => rfl) (.give (.int number))
  | @name name number bound =>
    rw [evalAt, bound, Int64.ofInt_toInt]
    exact means_takeUp room.not_beyond (fun _ => rfl) (.give (.int number))
  | plus left right ih ih' =>
    rw [Int64.ofInt_add]
    exact means_call_onIntegers (standard "plus" (by decide)) room ih ih'
  | minus left right ih ih' =>
    rw [Int64.ofInt_sub]
    exact means_call_onIntegers (standard "minus" (by decide)) room ih ih'
  | times left right ih ih' =>
    rw [Int64.ofInt_mul]
    exact means_call_onIntegers (standard "times" (by decide)) room ih ih'
  | negate inner ih =>
    rw [Int64.ofInt_neg]
    exact means_call (standard "negate" (by decide)) room.not_beyond
      (.cons (ih (room.arg (.head _))) .nil)

/-- A calculation wraps only at its end, as it were. In an evaluator whose sums, differences,
products and negations are the built-in ones, a calculation that has room comes to an integer: the
residue of its exact value that a word can hold. -/
theorem outcome_of_calculates
    (standard : ∀ name ∈ ["plus", "minus", "times", "negate"],
      evaluator.function? name = Function.builtIn.lookup name)
    {expression : Expr β} {exact : Int} (calculates : expression.Calculates env exact) {depth : Nat}
    (room : evaluator.HasRoom expression depth) (ledger : Ledger) :
    ∃ number : Int64,
      (evaluator.evalAt expression env depth).outcome ledger = .ok (.int number) ∧
      number.toInt ≡ exact [ZMOD 2 ^ 64] ∧ -2 ^ 63 ≤ number.toInt ∧ number.toInt < 2 ^ 63 := by
  have means := means_of_calculates standard calculates room ledger
  refine ⟨.ofInt exact, (Meaning.eq_ok_of_ofOutcome means).1, ?_, Int64.le_toInt _,
    Int64.toInt_lt _⟩
  rw [Int64.toInt_ofInt]
  exact Int.bmod_emod

/-- The product of two numbers past the greatest integer: one more than it, and three less than the
negation of a name. -/
def overflowing : Expr Host :=
  .call "times" [.call "plus" [.int Int64.maxValue, .int 1],
    .call "minus" [.call "negate" [.var "n"], .int 3]]

/-- The product is nested three levels deep. -/
theorem nesting_overflowing : overflowing.nesting = 3 := by
  simp (disch := decide) only [overflowing, Expr.nesting_eq_succ, Expr.nesting_eq_zero,
    Expr.placedParts, Expr.parts, Expr.int, List.map, List.max?, List.foldl, Option.getD]
  decide

/-- With the least integer for the name every step of the product wraps, and the product is the
least integer again, as its exact value is. The limit on nesting just leaves room for it. -/
theorem outcome_of_calculates_overflowing :
    (∀ name ∈ ["plus", "minus", "times", "negate"],
      (new 3 true : Evaluator Host).function? name = Function.builtIn.lookup name) ∧
    overflowing.Calculates (Env.empty.bind "n" (.int Int64.minValue))
      ((2 ^ 63 - 1 + 1) * (-(-2 ^ 63) - 3)) ∧
    (new 3 true).HasRoom overflowing 0 ∧
    ∃ number : Int64,
      ((new 3 true).evalAt overflowing (Env.empty.bind "n" (.int Int64.minValue)) 0).outcome {} =
        .ok (.int number) ∧
      number.toInt ≡ (2 ^ 63 - 1 + 1) * (-(-2 ^ 63) - 3) [ZMOD 2 ^ 64] ∧
      number.toInt = -2 ^ 63 := by
  have standard : ∀ name ∈ ["plus", "minus", "times", "negate"],
      (new 3 true : Evaluator Host).function? name = Function.builtIn.lookup name :=
    fun _ _ => rfl
  have bound : (Env.empty.bind "n" (.int Int64.minValue) : Env Host).lookup "n" =
      some (.int Int64.minValue) := rfl
  have calculates : overflowing.Calculates (Env.empty.bind "n" (.int Int64.minValue))
      ((2 ^ 63 - 1 + 1) * (-(-2 ^ 63) - 3)) :=
    .times (.plus (.literal Int64.maxValue) (.literal 1))
      (.minus (.negate (.name bound)) (.literal 3))
  have room : (new 3 true).HasRoom overflowing 0 := by
    intro _
    rw [nesting_overflowing]
    decide
  obtain ⟨number, gives, residue, -, -⟩ := outcome_of_calculates standard calculates room {}
  refine ⟨standard, calculates, room, number, gives, residue, ?_⟩
  have same : Int64.minValue = number := Value.int.inj (Except.ok.inj gives)
  rw [← same]
  decide

end Evaluator

/-! ## Division -/

/-- Whether words are the quotient and the remainder of others in the division that drops the
fraction of the exact quotient. -/
structure Truncates (dividend divisor quotient remainder : Int64) : Prop where
  /-- The remainder is smaller than the divisor. -/
  small : remainder.toInt.natAbs < divisor.toInt.natAbs
  /-- Unless it is zero, the remainder has the sign of the dividend. -/
  sign : remainder = 0 ∨ remainder.toInt.sign = dividend.toInt.sign
  /-- A quotient that fits a word is the exact one, rounded toward zero. -/
  exact : ¬ (dividend = Int64.minValue ∧ divisor = -1) →
    quotient.toInt = dividend.toInt.tdiv divisor.toInt
  /-- The one quotient that does not fit wraps around. -/
  wrapped : dividend = Int64.minValue → divisor = -1 →
    quotient = Int64.minValue ∧ remainder = 0

/-- Division of words drops the fraction. -/
theorem truncates_div_mod {dividend divisor : Int64} (nonzero : divisor ≠ 0) :
    Truncates dividend divisor (dividend / divisor) (dividend % divisor) where
  small := by
    have positive : 0 < divisor.toInt.natAbs := by
      rw [Int.natAbs_pos, ← Int64.toInt_zero, Ne, Int64.toInt_inj]
      exact nonzero
    rw [Int64.toInt_mod, Int.natAbs_tmod]
    exact Nat.mod_lt _ positive
  sign := by
    rw [← Int64.toInt_inj, Int64.toInt_mod, Int64.toInt_zero, ← Int.sign_eq_zero_iff_zero,
      Int.sign_tmod]
    split
    · exact .inl rfl
    · exact .inr rfl
  exact := by
    intro fits
    by_cases least : dividend = Int64.minValue
    · exact Int64.toInt_div_of_ne_right _ _ fun minusOne => fits ⟨least, minusOne⟩
    · exact Int64.toInt_div_of_ne_left _ _ least
  wrapped := by
    rintro rfl rfl
    decide

/-- The quotient times the divisor and the remainder give the dividend, wherever they wrap. -/
theorem div_mul_add_mod (dividend divisor : Int64) :
    dividend / divisor * divisor + dividend % divisor = dividend := by
  have quotient : dividend / divisor = .ofInt (dividend.toInt.tdiv divisor.toInt) := by
    rw [← Int64.toInt_inj, Int64.toInt_div, Int64.toInt_ofInt]
  have remainder : dividend % divisor = .ofInt (dividend.toInt.tmod divisor.toInt) := by
    rw [← Int64.toInt_mod, Int64.ofInt_toInt]
  calc
    dividend / divisor * divisor + dividend % divisor
    _ = .ofInt (dividend.toInt.tdiv divisor.toInt) * .ofInt divisor.toInt +
          .ofInt (dividend.toInt.tmod divisor.toInt) := by
        rw [quotient, remainder, Int64.ofInt_toInt]
    _ = .ofInt (dividend.toInt.tdiv divisor.toInt * divisor.toInt +
          dividend.toInt.tmod divisor.toInt) := by rw [Int64.ofInt_add, Int64.ofInt_mul]
    _ = dividend := by rw [Int.tdiv_mul_add_tmod, Int64.ofInt_toInt]

namespace Function

/-- A division by zero is raised by dividing by zero, or it is a part of an argument. -/
theorem Gives.of_divisionByZero {name : String} {args : List (Value β)}
    (gives : Gives name args divisionByZero) :
    (name ∈ ["divides", "modulo"] ∧ ∃ dividend, args = [.int dividend, .int 0]) ∨
      name ∈ ["first", "second"] ∧ ∃ arg ∈ args, divisionByZero ∈ arg.children := by
  generalize same : divisionByZero = value at gives
  cases gives with
  | scalar plain =>
    subst same
    exact Shape.noConfusion plain
  | together => cases same
  | part taking arg member => exact .inr ⟨taking, _, arg, same ▸ member⟩
  | byZero dividing zero => exact .inl ⟨dividing, zero⟩
  | unfit => simp [Value.typeError, divisionByZero] at same

variable [Payload β]

/-- What the built-in function of a name gives, if there is one. -/
def given? (name : String) (args : List (Value β)) : Option (Value β) :=
  (pureBuiltIn.lookup name).map fun function => function args

/-- What is given is something that a built-in function can give. -/
theorem gives_of_given? {name : String} {args : List (Value β)} {value : Value β}
    (given : given? name args = some value) : Gives name args value := by
  obtain ⟨function, known, rfl⟩ := Option.map_eq_some_iff.mp given
  exact gives_of_mem_pureBuiltIn (mem_of_lookup known) args

/-- Division drops the fraction, for all words. Unless the divisor is zero, the two divisions give
integers that are the quotient and the remainder, and the quotient times the divisor plus the
remainder is the dividend. They raise a division by zero when the divisor is zero and for no other
arguments, and no other built-in function gives such an exception but as a part of an argument. -/
theorem division_law :
    (∀ dividend divisor : Int64, divisor ≠ 0 → ∃ quotient remainder : Int64,
      given? "divides" [.int dividend, .int divisor] = some (.int quotient : Value β) ∧
      given? "modulo" [.int dividend, .int divisor] = some (.int remainder : Value β) ∧
      (given? "times" [.int quotient, .int divisor] >>= fun product =>
        given? "plus" [product, .int remainder]) = some (.int dividend : Value β) ∧
      Truncates dividend divisor quotient remainder) ∧
    (∀ name ∈ ["divides", "modulo"], ∀ args : List (Value β),
      given? name args = some divisionByZero ↔ ∃ dividend, args = [.int dividend, .int 0]) ∧
    ∀ (name : String) (args : List (Value β)), given? name args = some divisionByZero →
      name ∈ ["divides", "modulo"] ∨ ∃ arg ∈ args, divisionByZero ∈ arg.children := by
  refine ⟨?_, ?_, ?_⟩
  · intro dividend divisor nonzero
    refine ⟨dividend / divisor, dividend % divisor, ?_, ?_, ?_, truncates_div_mod nonzero⟩
    · exact congrArg some (if_neg nonzero)
    · exact congrArg some (if_neg nonzero)
    · exact congrArg (fun number => some (Value.int number)) (div_mul_add_mod dividend divisor)
  · intro name dividing args
    have apart : ∀ name ∈ ["divides", "modulo"], name ∉ ["first", "second"] := by decide
    constructor
    · intro given
      obtain ⟨-, zero⟩ | ⟨taking, -⟩ := (gives_of_given? given).of_divisionByZero
      · exact zero
      · exact absurd taking (apart name dividing)
    · rintro ⟨dividend, rfl⟩
      simp only [List.mem_cons, List.not_mem_nil, or_false] at dividing
      obtain rfl | rfl := dividing <;> rfl
  · intro name args given
    obtain ⟨dividing, -⟩ | ⟨-, part⟩ := (gives_of_given? given).of_divisionByZero
    · exact .inl dividing
    · exact .inr part

/-- A negative number by a positive one, the least integer by minus one, and a division by zero. -/
theorem division_law_signs :
    (∃ quotient remainder : Int64,
      given? "divides" [.int (-7), .int 2] = some (.int quotient : Value Host) ∧
      given? "modulo" [.int (-7), .int 2] = some (.int remainder : Value Host) ∧
      Truncates (-7) 2 quotient remainder ∧ quotient = -3 ∧ remainder = -1) ∧
    (∃ quotient remainder : Int64,
      given? "divides" [.int Int64.minValue, .int (-1)] = some (.int quotient : Value Host) ∧
      given? "modulo" [.int Int64.minValue, .int (-1)] = some (.int remainder : Value Host) ∧
      quotient = Int64.minValue ∧ remainder = 0) ∧
    given? "modulo" [.int 7, .int 0] = some (divisionByZero : Value Host) := by
  obtain ⟨exact, raises, -⟩ := division_law (β := Host)
  obtain ⟨quotient, remainder, divides, leaves, -, truncates⟩ := exact (-7) 2 (by decide)
  obtain ⟨wrapped, zero, wraps, leavesZero, -, overflows⟩ :=
    exact Int64.minValue (-1) (by decide)
  have whole : Value.int (-3) = .int quotient := Option.some.inj divides
  have left : Value.int (-1) = .int remainder := Option.some.inj leaves
  exact ⟨⟨quotient, remainder, divides, leaves, truncates, (Value.int.inj whole).symm,
      (Value.int.inj left).symm⟩,
    ⟨wrapped, zero, wraps, leavesZero, overflows.wrapped rfl rfl⟩,
    (raises "modulo" (by decide) _).mpr ⟨7, rfl⟩⟩

end Function

end GrammarKit
