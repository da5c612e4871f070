import GrammarKit.Evaluator.Function
import GrammarKit.Proofs.Feed
import GrammarKit.Proofs.Pattern
/-!
# Conditions on values

A condition on values that scalars meet and that composites meet together with their children
(`Value.Inherited`) passes along everything that evaluation does with values: from a subject to what
a pattern binds, from a value to the items a context feeds on, and from arguments to what a built-in
function gives, of which there are few kinds (`Function.Gives`). A function may raise, and then it
is what was raised that meets the condition (`Value.Outward`).
-/

namespace GrammarKit

variable {β : Type}

namespace Value

/-- Whether a condition holds of scalars, and of data and lists along with their children. -/
structure Inherited (good : Value β → Prop) : Prop where
  /-- Scalars meet the condition. -/
  scalar : ∀ {value}, value.shape = .scalar → good value
  /-- Data meets the condition along with its arguments. -/
  data : ∀ {name ownTag args}, good (.data name ownTag args) ↔ ∀ arg ∈ args, good arg
  /-- Lists meet the condition along with their items. -/
  list : ∀ {items}, good (.list items) ↔ ∀ item ∈ items, good item
  /-- What was raised meets the condition if an exception does. -/
  exception : ∀ {raised}, good (.exception raised) → good raised

/-- What holds of all values is inherited. -/
theorem inherited_true : Inherited fun _ : Value β => True where
  scalar _ := trivial
  data := by simp
  list := by simp
  exception _ := trivial

/-- Whether a condition holds of a value, or of what was raised when it is an exception. -/
inductive Outward (good : Value β → Prop) : Value β → Prop where
  /-- A value that meets the condition. -/
  | given {value : Value β} (holds : good value) : Outward good value
  /-- An exception of a value that meets the condition. -/
  | raised {raised : Value β} (holds : good raised) : Outward good (.exception raised)

/-- A value that is an exception was raised. -/
theorem exists_of_isException {value : Value β} (kind : value.isException = true) :
    ∃ raised, value = .exception raised := by
  cases value with
  | exception raised => exact ⟨raised, rfl⟩
  | _ => exact Bool.noConfusion kind

variable {good : Value β → Prop} (inherited : Inherited good)

namespace Inherited

include inherited

/-- Data of one argument meets the condition along with it. -/
theorem wrapped {name ownTag : String} {value : Value β} :
    good (.data name ownTag [value]) ↔ good value := by
  rw [inherited.data, List.forall_mem_singleton]

/-- A type error raises what meets the condition when its arguments do. -/
theorem typeError {operation : String} {args : List (Value β)} (holds : ∀ arg ∈ args, good arg) :
    Outward good (typeError operation args) :=
  .raised (inherited.data.mpr (List.forall_mem_cons.mpr ⟨inherited.scalar rfl, holds⟩))

end Inherited

end Value

open Value

variable {good : Value β → Prop}

/-! ## What patterns bind -/

namespace Env

/-- Whether everything that an environment binds, hidden or not, meets a condition. -/
def Binds (good : Value β → Prop) (env : Env β) : Prop := ∀ entry ∈ env.bindings, good entry.2

variable {env : Env β}

/-- The empty environment binds nothing. -/
theorem Binds.empty : (Env.empty : Env β).Binds good := List.forall_mem_nil _

/-- Binding a value that meets the condition keeps an environment as it should be. -/
theorem Binds.bind (bound : env.Binds good) (name : String) {value : Value β} (holds : good value) :
    (env.bind name value).Binds good :=
  List.forall_mem_cons.mpr ⟨holds, bound⟩

/-- Extending by an environment that is as it should be keeps one so. -/
theorem Binds.extend (bound : env.Binds good) {other : Env β} (found : other.Binds good) :
    (env.extend other).Binds good := by
  rw [extend_eq_push]
  exact List.forall_mem_append.mpr
    ⟨fun entry member => found entry (mem_of_mem_visibleFrom member), bound⟩

/-- What a look-up finds meets the condition. -/
theorem Binds.lookup (bound : env.Binds good) {name : String} {value : Value β}
    (found : env.lookup name = some value) : good value :=
  bound _ (mem_of_lookup found)

end Env

namespace Pattern

variable [Payload β]

mutual

/-- The variables of a pattern that fits a value meet the condition along with it. -/
theorem Meets.holds (inherited : Inherited good) {pattern : Pattern β} {value : Value β}
    {met : List (String × Value β)} (meets : pattern.Meets value met) (holds : good value) :
    ∀ occurrence ∈ met, good occurrence.2 := by
  cases meets with
  | lit | any | tagged => exact List.forall_mem_nil _
  | var => exact List.forall_mem_singleton.mpr holds
  | data _ each => exact each.holds inherited (inherited.data.mp holds)
  | list each => exact each.holds inherited (inherited.list.mp holds)
  | exception inner => exact inner.holds inherited (inherited.exception holds)

/-- The variables of patterns that fit values meet the condition along with these. -/
theorem MeetsEach.holds (inherited : Inherited good) {patterns : List (Pattern β)}
    {values : List (Value β)} {met : List (String × Value β)}
    (each : MeetsEach patterns values met) (holds : ∀ value ∈ values, good value) :
    ∀ occurrence ∈ met, good occurrence.2 := by
  cases each with
  | nil => exact List.forall_mem_nil _
  | cons first others =>
    obtain ⟨head, tail⟩ := List.forall_mem_cons.mp holds
    exact List.forall_mem_append.mpr ⟨first.holds inherited head, others.holds inherited tail⟩

end

/-- Gathering what meets the condition binds such values. -/
theorem binds_of_gather {bound found : Env β} {met : List (String × Value β)}
    (before : bound.Binds good) (holds : ∀ occurrence ∈ met, good occurrence.2)
    (gathered : gather bound met = some found) : found.Binds good := by
  induction met generalizing bound with
  | nil => exact Option.some.inj gathered ▸ before
  | cons occurrence others ih =>
    obtain ⟨head, tail⟩ := List.forall_mem_cons.mp holds
    rw [gather_cons, unifyFrom, Option.bind_eq_some_iff] at gathered
    obtain ⟨middle, matched, gathered⟩ := gathered
    refine ih ?_ tail gathered
    cases known : bound.lookup occurrence.1 with
    | none =>
      rw [known, Option.some.injEq] at matched
      exact matched ▸ before.bind occurrence.1 head
    | some first =>
      rw [known, Option.ite_none_right_eq_some, Option.some.injEq] at matched
      exact matched.2 ▸ before

/-- A match of a value that meets the condition binds such values. -/
theorem binds_of_unifyFrom (inherited : Inherited good) {bound found : Env β}
    (before : bound.Binds good) {pattern : Pattern β} {value : Value β} (holds : good value)
    (matched : unifyFrom bound pattern value = some found) : found.Binds good := by
  obtain ⟨met, meets, gathered⟩ := unifyFrom_eq_some_iff.mp matched
  exact binds_of_gather before (meets.holds inherited holds) gathered

/-- What a clause binds meets the condition, since only the patterns that ask for an exception see
one, and those see what was raised. -/
theorem binds_of_unify (inherited : Inherited good) {pattern : Pattern β} {value : Value β}
    {found : Env β} (holds : Outward good value)
    (seen : ¬ (value.isException ∧ ¬ pattern.asksForException))
    (matched : pattern.unify value = some found) : found.Binds good := by
  cases holds with
  | given holds => exact binds_of_unifyFrom inherited .empty holds matched
  | @raised raised holds =>
    cases pattern with
    | exception inner =>
      rw [unify, unifyFrom] at matched
      exact binds_of_unifyFrom inherited .empty holds matched
    | tagged wanted =>
      simp only [unify, unifyFrom, Option.ite_none_right_eq_some, Option.some.injEq] at matched
      exact matched.2 ▸ .empty
    | _ => exact absurd ⟨rfl, Bool.false_ne_true⟩ seen

end Pattern

/-! ## What contexts feed on -/

/-- Whether what ends a computation, or the items it goes on with, meet a condition. -/
def Feed.Meets (good : Value β → Prop) : Feed β → Prop
  | .halt result => Outward good result
  | .one item => good item
  | .each items => ∀ item ∈ items, good item

/-- The plans of built-in contexts lift and feed what meets the condition to such values. -/
theorem Plan.meets_of_lookup (inherited : Inherited good) {tag : String} {plan : Plan β}
    (found : builtIn.lookup tag = some plan) {value : Value β} (holds : good value) :
    good (plan.lift value) ∧ (plan.feed value).Meets good := by
  have member := mem_of_lookup found
  have unfit (operation : String) : (Feed.halt (.typeError operation [value])).Meets good :=
    inherited.typeError (List.forall_mem_singleton.mpr holds)
  simp only [builtIn, List.mem_cons, Prod.mk.injEq, List.not_mem_nil, or_false] at member
  rcases member with ⟨-, rfl⟩ | ⟨-, rfl⟩ | ⟨-, rfl⟩ | ⟨-, rfl⟩ | ⟨-, rfl⟩
  · refine ⟨holds, ?_⟩
    dsimp only [Plan.exception]
    split
    · exact .raised (inherited.exception holds)
    · exact holds
  · exact ⟨holds, holds⟩
  · refine ⟨inherited.wrapped.mpr holds, ?_⟩
    dsimp only [maybe]
    split
    · exact inherited.wrapped.mp holds
    · exact .given holds
    · exact unfit _
  · refine ⟨inherited.wrapped.mpr holds, ?_⟩
    dsimp only [either]
    split
    · exact inherited.wrapped.mp holds
    · exact .given holds
    · exact unfit _
  · refine ⟨inherited.list.mpr (List.forall_mem_singleton.mpr holds), ?_⟩
    dsimp only [list]
    split
    · exact inherited.list.mp holds
    · exact unfit _

/-! ## What functions give -/

namespace Function

/-- What a built-in function of a name can give for arguments. -/
inductive Gives (name : String) (args : List (Value β)) : Value β → Prop where
  /-- A scalar. -/
  | scalar {value : Value β} (plain : value.shape = .scalar) : Gives name args value
  /-- The arguments as one. -/
  | together {constructor ownTag : String} : Gives name args (.data constructor ownTag args)
  /-- A part of an argument. -/
  | part {constructor ownTag : String} {parts : List (Value β)} {value : Value β}
      (taking : name ∈ ["first", "second"]) (arg : .data constructor ownTag parts ∈ args)
      (member : value ∈ parts) : Gives name args value
  /-- A division by zero that is raised. -/
  | byZero (dividing : name ∈ ["divides", "modulo"])
      (zero : ∃ dividend, args = [.int dividend, .int 0]) : Gives name args divisionByZero
  /-- A type error that is raised. -/
  | unfit : Gives name args (.typeError name args)

variable {name : String} {args : List (Value β)}

/-- A function of two integers gives what its operation gives for them. -/
theorem gives_onIntegers {operation : Int64 → Int64 → Value β}
    (gives : ∀ left right, args = [.int left, .int right] →
      Gives name args (operation left right)) :
    Gives name args (onIntegers name operation args) := by
  unfold onIntegers
  split
  · exact gives _ _ rfl
  · exact .unfit

/-- A function of two truth values gives one. -/
theorem gives_onTruths (operation : Bool → Bool → Bool) :
    Gives name args (onTruths name operation args) := by
  unfold onTruths
  split
  · exact .scalar rfl
  · exact .unfit

/-- An operation that is not defined for a right operand of zero gives an integer for others. -/
theorem gives_unlessZero (dividing : name ∈ ["divides", "modulo"]) {left right : Int64}
    (pair : args = [.int left, .int right]) (result : Int64) :
    Gives name args (if right = 0 then divisionByZero else .int result) := by
  split
  · next zero => exact .byZero dividing ⟨left, zero ▸ pair⟩
  · exact .scalar rfl

/-- What every built-in function gives. -/
theorem gives_of_mem_pureBuiltIn [Payload β] {function : List (Value β) → Value β}
    (member : (name, function) ∈ pureBuiltIn) (args : List (Value β)) :
    Gives name args (function args) := by
  simp only [pureBuiltIn, List.mem_cons, Prod.mk.injEq, List.not_mem_nil, or_false] at member
  rcases member with ⟨rfl, rfl⟩ | ⟨rfl, rfl⟩ | ⟨rfl, rfl⟩ | ⟨rfl, rfl⟩ | ⟨rfl, rfl⟩ | ⟨rfl, rfl⟩ |
    ⟨rfl, rfl⟩ | ⟨rfl, rfl⟩ | ⟨rfl, rfl⟩ | ⟨rfl, rfl⟩ | ⟨rfl, rfl⟩ | ⟨rfl, rfl⟩ | ⟨rfl, rfl⟩ |
    ⟨rfl, rfl⟩ | ⟨rfl, rfl⟩ | ⟨rfl, rfl⟩ | ⟨rfl, rfl⟩ | ⟨rfl, rfl⟩ | ⟨rfl, rfl⟩ | ⟨rfl, rfl⟩
  -- plus, minus, times, divides, modulo, negate
  · exact gives_onIntegers fun _ _ _ => .scalar rfl
  · exact gives_onIntegers fun _ _ _ => .scalar rfl
  · exact gives_onIntegers fun _ _ _ => .scalar rfl
  · exact gives_onIntegers fun _ _ pair => gives_unlessZero (.head _) pair _
  · exact gives_onIntegers fun _ _ pair => gives_unlessZero (.tail _ (.head _)) pair _
  · unfold negate
    split
    · exact .scalar rfl
    · exact .unfit
  -- the comparisons
  · exact gives_onIntegers fun _ _ _ => .scalar rfl
  · exact gives_onIntegers fun _ _ _ => .scalar rfl
  · exact gives_onIntegers fun _ _ _ => .scalar rfl
  · exact gives_onIntegers fun _ _ _ => .scalar rfl
  · unfold equalTo
    split
    · exact .scalar rfl
    · exact .unfit
  · unfold notEqualTo
    split
    · exact .scalar rfl
    · exact .unfit
  -- not, and, or
  · unfold Function.not
    split
    · exact .scalar rfl
    · exact .unfit
  · exact gives_onTruths _
  · exact gives_onTruths _
  -- the tags
  · unfold isTag
    split
    · exact .scalar rfl
    · exact .unfit
  · unfold tagOf
    split
    · exact .scalar rfl
    · exact .unfit
  -- pairs
  · unfold pair
    split
    · exact .together
    · exact .unfit
  · unfold first
    split
    · exact .part (.head _) (.head _) (.head _)
    · exact .unfit
  · unfold second
    split
    · exact .part (.tail _ (.head _)) (.head _) (.tail _ (.head _))
    · exact .unfit

/-- What a built-in function gives meets the condition, or is raised and does. -/
theorem Gives.outward {value : Value β} (gives : Gives name args value)
    (inherited : Inherited good) (holds : ∀ arg ∈ args, good arg) : Outward good value := by
  cases gives with
  | scalar plain => exact .given (inherited.scalar plain)
  | together => exact .given (inherited.data.mpr holds)
  | part _ arg member => exact .given (inherited.data.mp (holds _ arg) _ member)
  | byZero => exact .raised (inherited.data.mpr (List.forall_mem_nil _))
  | unfit => exact inherited.typeError holds

end Function

end GrammarKit
