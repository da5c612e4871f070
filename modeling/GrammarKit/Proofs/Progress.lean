import GrammarKit.Proofs.ExceptionFree
import Mathlib.Data.List.Basic
/-!
# Evaluation never gets stuck

An expression without holes that calls only built-in functions and uses only built-in contexts has a
value, whatever is bound around it, however deep expressions may nest and with or without a trace.
None of the ways to stop is open to such a run.

Some steps take a value apart by matching a pattern and then look up what its variables were bound
to, without asking whether they were: the contexts `maybe` and `either`, the halves of a pair, and
the extension of an environment by a match. The first part of this file writes these steps out, with
something of one's choice to be done where a name turns out to have no value. It is never done: the
steps are the ones that evaluators are built from (`Evaluator.newLookingUp_eq`,
`Env.extendLookingUp_eq`).
-/

namespace GrammarKit

variable {β : Type}

/-! ## Looking up what a match has bound -/

namespace Env

/-- The value of a name, or what is to be done where it has none. -/
def valueOr (missing : Run (Value β)) (env : Env β) (name : String) : Run (Value β) :=
  match env.lookup name with
  | some value => return value
  | none => missing

/-- Binds every visible name of `other` on top, the oldest first, to the value that a lookup finds;
a name without a value would be bound to the blank. -/
def extendLookingUp (blank : Value β) (env other : Env β) : Env β :=
  other.names.reverse.foldl (fun env name => env.bind name ((other.lookup name).getD blank)) env

/-- Every visible name has a value, so extending never binds the blank. -/
theorem extendLookingUp_eq (blank : Value β) (env other : Env β) :
    env.extendLookingUp blank other = env.extend other := by
  rw [extendLookingUp, names, ← List.map_reverse, List.foldl_map, extend]
  refine List.foldl_ext _ _ _ fun scope entry member => ?_
  have found : other.lookup entry.1 = some entry.2 :=
    (lookup_of_mem_visibleFrom (List.mem_reverse.mp member)).2
  rw [found, Option.getD_some]

end Env

namespace Pattern

variable [Payload β] {name tag : String} {patterns : List (Pattern β)} {value : Value β}
  {found : Env β}

/-- A data pattern matches data of its name whose tag agrees and whose arguments match. -/
theorem unify_data_eq_some_iff :
    (Pattern.data name tag patterns).unify value = some found ↔
      ∃ ownTag args, value = .data name ownTag args ∧
        (tag = "" ∨ (Value.data name ownTag args).tag = tag) ∧
          unifyAllFrom .empty patterns args = some found := by
  cases value with
  | data name' ownTag args =>
    simp only [unify, unifyFrom, Option.ite_none_right_eq_some, Value.data.injEq]
    constructor
    · rintro ⟨⟨rfl, tagged⟩, matched⟩
      exact ⟨ownTag, args, ⟨rfl, rfl, rfl⟩, tagged, matched⟩
    · rintro ⟨_, _, ⟨rfl, rfl, rfl⟩, tagged, matched⟩
      exact ⟨⟨rfl, tagged⟩, matched⟩
  | _ => simp [unify, unifyFrom]

/-- A data pattern whose tag is not its name matches only data that carries the tag itself. -/
theorem unify_tagged_eq_some_iff (named : name ≠ tag) (tagged : tag ≠ "") :
    (Pattern.data name tag patterns).unify value = some found ↔
      ∃ args, value = .data name tag args ∧ unifyAllFrom .empty patterns args = some found := by
  rw [unify_data_eq_some_iff]
  constructor
  · rintro ⟨ownTag, args, rfl, carries, matched⟩
    have same := carries.resolve_left tagged
    rw [Value.tag] at same
    split at same
    · exact absurd same named
    · exact ⟨args, by rw [same], matched⟩
  · rintro ⟨args, rfl, matched⟩
    exact ⟨tag, args, rfl, .inr (if_neg tagged), matched⟩

/-- Variables that differ and are not bound yet match as many values and bind them in order. -/
theorem unifyAllFrom_vars {bound : Env β} {names : List String} (distinct : names.Nodup)
    (free : ∀ name ∈ names, bound.lookup name = none) (values : List (Value β)) :
    unifyAllFrom bound (names.map .var) values =
      if values.length = names.length then some (bound.bindAll (names.zip values)) else none := by
  induction names generalizing bound values with
  | nil => cases values <;> rfl
  | cons name names ih =>
    cases values with
    | nil => rfl
    | cons value values =>
      obtain ⟨here, later⟩ := List.forall_mem_cons.mp free
      obtain ⟨apart, distinct⟩ := List.nodup_cons.mp distinct
      have still : ∀ other ∈ names, (bound.bind name value).lookup other = none := by
        intro other member
        rw [Env.lookup_bind, if_neg (ne_of_mem_of_not_mem member apart), later other member]
      rw [List.map_cons, unifyAllFrom, unifyFrom, here]
      dsimp only
      rw [ih distinct still values]
      simp [Env.bindAll]

/-- A constructor of variables that differ, whose tag is not its name, matches data that carries the
tag itself and has as many arguments. -/
theorem unify_tagged_vars_eq_some_iff (named : name ≠ tag) (tagged : tag ≠ "")
    {names : List String} (distinct : names.Nodup) :
    (Pattern.data name tag (names.map .var)).unify value = some found ↔
      ∃ args, value = .data name tag args ∧ args.length = names.length ∧
        found = Env.empty.bindAll (names.zip args) := by
  rw [unify_tagged_eq_some_iff named tagged]
  refine exists_congr fun args => and_congr_right fun _ => ?_
  rw [unifyAllFrom_vars distinct fun _ _ => rfl, Option.ite_none_right_eq_some, Option.some.injEq,
    eq_comm (a := found)]

end Pattern

/-! ## Built-ins that look up what they matched -/

section LookingUp

variable [Payload β] (missing : Run (Value β))

/-- The context `maybe`, which looks up the value that is there. -/
def Context.maybeLookingUp : Context β where
  lift := Value.just
  bind value next :=
    match (Pattern.data "just" "maybe" [.var "v"]).unify value with
    | some found => found.valueOr missing "v" >>= next
    | none =>
      match (Pattern.data "nothing" "maybe" []).unify value with
      | some _ => return value
      | none => return .typeError "bind<maybe>" [value]

/-- The context `either`, which looks up what the second alternative holds. -/
def Context.eitherLookingUp : Context β where
  lift := Value.right
  bind value next :=
    match (Pattern.data "right" "either" [.var "v"]).unify value with
    | some found => found.valueOr missing "v" >>= next
    | none =>
      match (Pattern.data "left" "either" [.any]).unify value with
      | some _ => return value
      | none => return .typeError "bind<either>" [value]

/-- A half of a pair, which is looked up under one of two names. -/
def Function.halfLookingUp (name held : String) : Function β
  | [value] =>
    match (Pattern.data "pair" "" [.var "0", .var "1"]).unify value with
    | some found => found.valueOr missing held
    | none => return .typeError name [value]
  | args => return .typeError name args

/-- What is matched has a value, so the context `maybe` feeds on it. -/
theorem Context.maybeLookingUp_eq : maybeLookingUp missing = maybe := by
  refine congrArg (Context.mk _) (funext₂ fun value next => ?_)
  split
  · next found matched =>
    have distinct : ["v"].Nodup := by decide
    obtain ⟨args, rfl, single, rfl⟩ :=
      (Pattern.unify_tagged_vars_eq_some_iff (by decide) (by decide) distinct).mp matched
    obtain ⟨inner, rfl⟩ := List.length_eq_one_iff.mp single
    rfl
  · next unmatched =>
    split
    · next found matched =>
      obtain ⟨args, rfl, matched⟩ :=
        (Pattern.unify_tagged_eq_some_iff (by decide) (by decide)).mp matched
      cases args with
      | nil => rfl
      | cons => cases matched
    · next unmatched' =>
      -- The value is neither there nor missing.
      split
      · cases unmatched
      · cases unmatched'
      · rfl

/-- What is matched has a value, so the context `either` feeds on it. -/
theorem Context.eitherLookingUp_eq : eitherLookingUp missing = either := by
  refine congrArg (Context.mk _) (funext₂ fun value next => ?_)
  split
  · next found matched =>
    have distinct : ["v"].Nodup := by decide
    obtain ⟨args, rfl, single, rfl⟩ :=
      (Pattern.unify_tagged_vars_eq_some_iff (by decide) (by decide) distinct).mp matched
    obtain ⟨inner, rfl⟩ := List.length_eq_one_iff.mp single
    rfl
  · next unmatched =>
    split
    · next found matched =>
      obtain ⟨args, rfl, matched⟩ :=
        (Pattern.unify_tagged_eq_some_iff (by decide) (by decide)).mp matched
      obtain _ | ⟨inner, _ | ⟨second, others⟩⟩ := args
      · cases matched
      · rfl
      · cases matched
    · next unmatched' =>
      -- The value is neither alternative.
      split
      · cases unmatched
      · cases unmatched'
      · rfl

/-- A pair is matched by two variables, and nothing else is. -/
theorem Function.halfLookingUp_unpaired {args : List (Value β)}
    (unpaired : ∀ ownTag one other, args ≠ [.data "pair" ownTag [one, other]])
    (name held : String) :
    halfLookingUp missing name held args = pure (.typeError name args) := by
  unfold halfLookingUp
  split
  · next value =>
    split
    · next found matched =>
      have distinct : ["0", "1"].Nodup := by decide
      obtain ⟨ownTag, halves, rfl, -, matched⟩ := Pattern.unify_data_eq_some_iff.mp matched
      have pairs : Pattern.unifyAllFrom .empty [.var "0", .var "1"] halves = _ :=
        Pattern.unifyAllFrom_vars distinct (fun _ _ => rfl) halves
      rw [pairs, Option.ite_none_right_eq_some] at matched
      obtain ⟨one, other, rfl⟩ := List.length_eq_two.mp matched.1
      exact absurd rfl (unpaired ownTag one other)
    · rfl
  · rfl

/-- Both halves of a pair have values when it is matched. -/
theorem Function.halfLookingUp_eq (args : List (Value β)) :
    halfLookingUp missing "first" "0" args = pure (first args) ∧
      halfLookingUp missing "second" "1" args = pure (second args) := by
  by_cases paired : ∃ ownTag one other, args = [.data "pair" ownTag [one, other]]
  · obtain ⟨ownTag, one, other, rfl⟩ := paired
    exact ⟨rfl, rfl⟩
  · have unpaired : ∀ ownTag one other, args ≠ [.data "pair" ownTag [one, other]] :=
      fun ownTag one other same => paired ⟨ownTag, one, other, same⟩
    rw [halfLookingUp_unpaired missing unpaired, halfLookingUp_unpaired missing unpaired]
    unfold first second
    constructor
    · split
      · next ownTag one other => exact absurd rfl (unpaired ownTag one other)
      · rfl
    · split
      · next ownTag one other => exact absurd rfl (unpaired ownTag one other)
      · rfl

/-- The built-in function of a name, where a half of a pair is looked up. -/
def Function.lookingUp (name : String) (usual : Function β) : Function β :=
  if name = "first" then halfLookingUp missing "first" "0"
  else if name = "second" then halfLookingUp missing "second" "1"
  else usual

/-- An evaluator with the built-in functions and contexts, where values that a match has bound are
looked up, and something is done where there is none. -/
def Evaluator.newLookingUp (maxDepth : Int64) (trace : Bool) : Evaluator β where
  functions := Function.builtIn.map fun entry =>
    (entry.1, Function.lookingUp missing entry.1 entry.2)
  contexts :=
    [("exception", .exception), ("identity", .identity), ("maybe", .maybeLookingUp missing),
      ("either", .eitherLookingUp missing), ("list", .list)]
  maxDepth := maxDepth
  trace := trace

/-- What is looked up is always there, whatever would be done otherwise. -/
theorem Evaluator.newLookingUp_eq (maxDepth : Int64) (trace : Bool) :
    newLookingUp missing maxDepth trace = new maxDepth trace := by
  have first : Function.halfLookingUp missing "first" "0" =
      fun args => pure (Function.first args) :=
    funext fun args => (Function.halfLookingUp_eq missing args).1
  have second : Function.halfLookingUp missing "second" "1" =
      fun args => pure (Function.second args) :=
    funext fun args => (Function.halfLookingUp_eq missing args).2
  have functions : (Function.builtIn.map fun entry =>
      (entry.1, Function.lookingUp missing entry.1 entry.2)) = Function.builtIn := by
    simp [Function.builtIn, Function.pureBuiltIn, Function.lookingUp, first, second]
  rw [newLookingUp, functions, Context.maybeLookingUp_eq, Context.eitherLookingUp_eq]
  rfl

end LookingUp

/-! ## Every evaluation has a value -/

variable [Payload β]

open Evaluator

/-- The built-in functions have a value for all arguments. -/
theorem exists_outcome_of_function?_new {maxDepth : Int64} {trace : Bool} {name : String}
    {function : Function β} (found : (new maxDepth trace).function? name = some function)
    {args : List (Value β)} (ledger : Ledger) :
    ∃ value, (function args).outcome ledger = .ok value := by
  obtain ⟨gives, -, rfl⟩ := exists_of_function?_new found
  exact ⟨gives args, rfl⟩

/-- The invariant of evaluators with the built-in functions and contexts when everything is known:
runs have a value, whatever values are around. -/
def Invariant.unstuck (maxDepth : Int64) (trace : Bool) :
    Invariant (new maxDepth trace : Evaluator β) where
  standard := contexts_new maxDepth trace
  good _ := True
  inherited := Value.inherited_true
  onNode := (new maxDepth trace).Knows
  literal _ := trivial
  catching := True
  asking _ _ _ := trivial
  attempting _ := trivial
  onEnd _ result := ∃ value, result = .ok value
  outward _ := .given trivial
  give _ := ⟨_, rfl⟩
  stop here unknown _ := absurd here unknown
  untraceable every textless :=
    absurd textless (Option.isSome_iff_ne_none.mp (isSome_text?_of_knows every))
  andThen _ _ next := next
  call found _ ledger := exists_outcome_of_function?_new found ledger
  feed _ kept := kept
  takeUp _ kept := kept
  settle kept := kept

namespace Evaluator

/-- An expression without holes that calls only built-in functions and uses only built-in contexts
has a value, which may be an exception, in every environment, at every limit of nesting and with or
without a trace. Where evaluation looks up what a match has bound without asking whether it is
bound, it is: whatever would be done otherwise makes no difference. -/
theorem new_never_gets_stuck (maxDepth : Int64) (trace : Bool) {expression : Expr β}
    (known : expression.Every (new maxDepth trace).Knows) (env : Env β) (depth : Nat)
    (ledger : Ledger) :
    (∃ value, ((new maxDepth trace).evalAt expression env depth).outcome ledger = .ok value) ∧
      (∀ missing, newLookingUp missing maxDepth trace = (new maxDepth trace : Evaluator β)) ∧
      ∀ (blank : Value β) (found : Env β), env.extendLookingUp blank found = env.extend found := by
  have standard : (new maxDepth trace : Evaluator β).contexts = Context.builtIn :=
    contexts_new maxDepth trace
  have kept := (Invariant.unstuck maxDepth trace).onRun_watchAt expression known
    (fun _ _ => trivial : env.Binds fun _ => True) depth ledger
  rw [← plain_watchAt standard expression env depth]
  exact ⟨kept, fun missing => newLookingUp_eq missing maxDepth trace,
    fun blank found => env.extendLookingUp_eq blank found⟩

/-- A block of the alternatives whose second step takes a pair apart, and whose last one passes its
subject on. -/
def unpacking : Expr Host :=
  .block "either" [⟨"p", .lift "either" (.call "pair" [.var "x", .lit (.int 2)])⟩,
    ⟨"", .case (.call "first" [.var "p"]) [⟨.list [.var "y"], .var "y"⟩, ⟨.any, .absent⟩]⟩]

/-- With a trace unpacking has a value, namely the first half. -/
theorem new_never_gets_stuck_unpacking :
    unpacking.Every (new 50 true).Knows ∧
      (∃ value, ((new 50 true).evalAt unpacking (Env.empty.bind "x" .nothing) 0).outcome {} =
        .ok value) ∧
      ((new 50 true).evalAt unpacking (Env.empty.bind "x" .nothing) 0).outcome {} =
        .ok .nothing := by
  have known : unpacking.Every (new 50 true).Knows := by
    refine .intro rfl (List.forall_mem_cons.mpr ⟨?packed, List.forall_mem_singleton.mpr ?unpacked⟩)
    case packed =>
      exact .intro rfl (List.forall_mem_singleton.mpr (.intro rfl (List.forall_mem_cons.mpr
        ⟨.leaf rfl trivial, List.forall_mem_singleton.mpr (.leaf rfl trivial)⟩)))
    case unpacked =>
      refine .intro trivial (List.forall_mem_cons.mpr
        ⟨.intro rfl (List.forall_mem_singleton.mpr (.leaf rfl trivial)), ?_⟩)
      exact List.forall_mem_singleton.mpr (.leaf rfl trivial)
  have unpacked := new_never_gets_stuck 50 true known (Env.empty.bind "x" .nothing) 0 {}
  exact ⟨known, unpacked.1, rfl⟩

end Evaluator

end GrammarKit
