import GrammarKit.Pattern
import GrammarKit.Proofs.Env
import Mathlib.Data.List.Induction
/-!
# What patterns bind

Matching walks a pattern and a value together. The walk alone decides nothing about variables: it
fits or it does not, and it notes which value each variable meets, from left to right
(`Pattern.Meets`). Matching itself threads the bindings through the walk, so whether a part of a
pattern matches hangs on the parts before it. The law that everything about matching rests on takes
the two apart: matching from some bindings is a walk, followed by gathering what was met on it
(`Pattern.unifyFrom_eq_some_iff`).

A match adds bindings for exactly the variables that the pattern mentions, each of them once and to
the value that it met first (`Env.Records`), so which names the body of a clause sees bound by its
pattern can be read off the pattern.
-/

namespace GrammarKit

variable {β : Type}

/-- Whether an environment binds the names that were met, each of them once and to the value that
was met first. -/
structure Env.Records (found : Env β) (met : List (String × Value β)) : Prop where
  /-- A name is bound to the first value that was met under it. -/
  looks : ∀ name, found.lookup name = met.lookup name
  /-- No name is bound twice. -/
  once : (found.bindings.map Prod.fst).Nodup

namespace Env.Records

variable {found : Env β} {met : List (String × Value β)} {name : String} {value : Value β}

/-- When nothing was met nothing is bound. -/
theorem empty : (Env.empty : Env β).Records [] := ⟨fun _ => rfl, .nil⟩

/-- The bound names are those that were met. -/
theorem mem_names (records : found.Records met) (wanted : String) :
    wanted ∈ found.bindings.map Prod.fst ↔ (met.lookup wanted).isSome := by
  rw [← records.looks, lookup, isSome_lookup_iff]

/-- A name that is met again stays bound as it was. -/
theorem again (records : found.Records met) (known : (met.lookup name).isSome) :
    found.Records (met ++ [(name, value)]) where
  looks wanted := by
    rw [records.looks, List.lookup_append, lookup_cons_eq_ite]
    by_cases same : wanted = name
    · rw [same, Option.or_of_isSome known]
    · rw [if_neg same, List.lookup_nil, Option.or_none]
  once := records.once

/-- A name that is met for the first time gets bound. -/
theorem bind (records : found.Records met) (fresh : met.lookup name = none) :
    (found.bind name value).Records (met ++ [(name, value)]) where
  looks wanted := by
    rw [lookup_bind, records.looks, List.lookup_append, lookup_cons_eq_ite]
    by_cases same : wanted = name
    · rw [same, fresh, if_pos rfl, Option.none_or, if_pos rfl]
    · rw [if_neg same, if_neg same, List.lookup_nil, Option.or_none]
  once := by
    have unmet : name ∉ found.bindings.map Prod.fst := by
      rw [records.mem_names, fresh]
      exact Bool.false_ne_true
    exact List.nodup_cons.mpr ⟨unmet, records.once⟩

end Env.Records

namespace Pattern

mutual

/-- The names of the variables in a pattern. -/
def names : Pattern β → List String
  | .var name => [name]
  | .data _ _ args => namesAmong args
  | .list items => namesAmong items
  | .exception raised => names raised
  | _ => []

/-- The names of the variables in several patterns. -/
def namesAmong : List (Pattern β) → List String
  | [] => []
  | first :: others => names first ++ namesAmong others

end

variable [Payload β]

/-! ## The walk -/

mutual

/-- A pattern fits a value, and its variables meet the given values on the way. -/
inductive Meets : Pattern β → Value β → List (String × Value β) → Prop
  /-- A literal meets an equal value. -/
  | lit {wanted value : Value β} (equal : wanted.equal value = true) : Meets (.lit wanted) value []
  /-- A variable meets any value. -/
  | var (name : String) (value : Value β) : Meets (.var name) value [(name, value)]
  /-- The wildcard meets any value, and nobody takes note. -/
  | any (value : Value β) : Meets .any value []
  /-- A tag meets a value with that tag. -/
  | tagged (value : Value β) : Meets (.tagged value.tag) value []
  /-- A data pattern meets data of its name, and of its tag when it has one. -/
  | data {name wantedTag ownTag : String} {patterns : List (Pattern β)} {args : List (Value β)}
      {met : List (String × Value β)}
      (tagged : wantedTag = "" ∨ (Value.data name ownTag args).tag = wantedTag)
      (each : MeetsEach patterns args met) :
      Meets (.data name wantedTag patterns) (.data name ownTag args) met
  /-- A list pattern meets a list. -/
  | list {patterns : List (Pattern β)} {items : List (Value β)} {met : List (String × Value β)}
      (each : MeetsEach patterns items met) : Meets (.list patterns) (.list items) met
  /-- An exception pattern meets an exception. -/
  | exception {pattern : Pattern β} {raised : Value β} {met : List (String × Value β)}
      (inner : Meets pattern raised met) : Meets (.exception pattern) (.exception raised) met

/-- Patterns fit as many values one by one, the leftmost first. -/
inductive MeetsEach : List (Pattern β) → List (Value β) → List (String × Value β) → Prop
  /-- No patterns fit no values. -/
  | nil : MeetsEach [] [] []
  /-- The first pattern fits the first value, and the others fit the others. -/
  | cons {pattern : Pattern β} {value : Value β} {patterns : List (Pattern β)}
      {values : List (Value β)} {met met' : List (String × Value β)}
      (first : Meets pattern value met) (others : MeetsEach patterns values met') :
      MeetsEach (pattern :: patterns) (value :: values) (met ++ met')

end

mutual

/-- The variables that meet a value on a walk are those of the pattern, in their order. -/
theorem Meets.map_fst {pattern : Pattern β} {value : Value β} {met : List (String × Value β)} :
    pattern.Meets value met → met.map Prod.fst = pattern.names
  | .lit _ | .var _ _ | .any _ | .tagged _ => rfl
  | .data _ each | .list each => each.map_fst
  | .exception inner => inner.map_fst

/-- The variables that meet a value on several walks are those of the patterns, in their order. -/
theorem MeetsEach.map_fst {patterns : List (Pattern β)} {values : List (Value β)}
    {met : List (String × Value β)} :
    MeetsEach patterns values met → met.map Prod.fst = namesAmong patterns
  | .nil => rfl
  | .cons first others => by rw [List.map_append, first.map_fst, others.map_fst, namesAmong]

end

/-! ## Gathering what was met -/

/-- Binds what was met, in order; a name that is bound already has to have met an equal value. -/
def gather (bound : Env β) (met : List (String × Value β)) : Option (Env β) :=
  met.foldlM (fun bound occurrence => unifyFrom bound (.var occurrence.1) occurrence.2) bound

/-- The first occurrence is gathered as its variable is matched. -/
theorem gather_cons (bound : Env β) (name : String) (value : Value β)
    (others : List (String × Value β)) :
    gather bound ((name, value) :: others) =
      (unifyFrom bound (.var name) value).bind fun next => gather next others :=
  List.foldlM_cons

/-- What was met on two walks is gathered one after the other. -/
theorem gather_append (bound : Env β) (met met' : List (String × Value β)) :
    gather bound (met ++ met') = (gather bound met).bind fun middle => gather middle met' :=
  List.foldlM_append

/-- A single occurrence is gathered as its variable is matched. -/
theorem gather_singleton (bound : Env β) (name : String) (value : Value β) :
    gather bound [(name, value)] = unifyFrom bound (.var name) value :=
  bind_pure _

mutual

/-- Matching from some bindings is a walk, followed by gathering what was met on it. -/
theorem unifyFrom_eq_some_iff {bound found : Env β} {pattern : Pattern β} {value : Value β} :
    unifyFrom bound pattern value = some found ↔
      ∃ met, pattern.Meets value met ∧ gather bound met = some found := by
  cases pattern with
  | lit wanted =>
    rw [unifyFrom, Option.ite_none_right_eq_some]
    constructor
    · rintro ⟨equal, kept⟩
      exact ⟨[], .lit equal, kept⟩
    · rintro ⟨met, meets, gathered⟩
      cases meets with
      | lit equal => exact ⟨equal, gathered⟩
  | any =>
    rw [unifyFrom]
    constructor
    · intro kept
      exact ⟨[], .any value, kept⟩
    · rintro ⟨met, meets, gathered⟩
      cases meets with
      | any => exact gathered
  | tagged wanted =>
    rw [unifyFrom, Option.ite_none_right_eq_some]
    constructor
    · rintro ⟨rfl, kept⟩
      exact ⟨[], .tagged value, kept⟩
    · rintro ⟨met, meets, gathered⟩
      cases meets with
      | tagged => exact ⟨rfl, gathered⟩
  | var name =>
    constructor
    · intro matched
      exact ⟨_, .var name value, (gather_singleton ..).trans matched⟩
    · rintro ⟨met, meets, gathered⟩
      cases meets with
      | var => exact (gather_singleton ..).symm.trans gathered
  | data name wantedTag patterns =>
    cases value with
    | data ownName ownTag args =>
      rw [unifyFrom, Option.ite_none_right_eq_some, unifyAllFrom_eq_some_iff]
      constructor
      · rintro ⟨⟨rfl, tagged⟩, met, each, gathered⟩
        exact ⟨met, .data tagged each, gathered⟩
      · rintro ⟨met, meets, gathered⟩
        cases meets with
        | data tagged each => exact ⟨⟨rfl, tagged⟩, met, each, gathered⟩
    | _ => exact ⟨nofun, nofun⟩
  | list patterns =>
    cases value with
    | list items =>
      rw [unifyFrom, unifyAllFrom_eq_some_iff]
      constructor
      · rintro ⟨met, each, gathered⟩
        exact ⟨met, .list each, gathered⟩
      · rintro ⟨met, meets, gathered⟩
        cases meets with
        | list each => exact ⟨met, each, gathered⟩
    | _ => exact ⟨nofun, nofun⟩
  | exception inner =>
    cases value with
    | exception raised =>
      rw [unifyFrom, unifyFrom_eq_some_iff]
      constructor
      · rintro ⟨met, meets, gathered⟩
        exact ⟨met, .exception meets, gathered⟩
      · rintro ⟨met, meets, gathered⟩
        cases meets with
        | exception within => exact ⟨met, within, gathered⟩
    | _ => exact ⟨nofun, nofun⟩

/-- Matching one by one from some bindings is a walk, followed by gathering what was met on it. -/
theorem unifyAllFrom_eq_some_iff {bound found : Env β} {patterns : List (Pattern β)}
    {values : List (Value β)} :
    unifyAllFrom bound patterns values = some found ↔
      ∃ met, MeetsEach patterns values met ∧ gather bound met = some found := by
  cases patterns with
  | nil =>
    cases values with
    | nil =>
      constructor
      · intro kept
        exact ⟨[], .nil, kept⟩
      · rintro ⟨met, each, gathered⟩
        cases each with
        | nil => exact gathered
    | cons => exact ⟨nofun, nofun⟩
  | cons pattern patterns =>
    cases values with
    | nil => exact ⟨nofun, nofun⟩
    | cons value values =>
      have unfolded : unifyAllFrom bound (pattern :: patterns) (value :: values) =
          (unifyFrom bound pattern value).bind fun middle =>
            unifyAllFrom middle patterns values := by
        rw [unifyAllFrom]
        cases unifyFrom bound pattern value <;> rfl
      rw [unfolded, Option.bind_eq_some_iff]
      constructor
      · rintro ⟨middle, first, others⟩
        obtain ⟨met, meets, gathered⟩ := unifyFrom_eq_some_iff.mp first
        obtain ⟨met', each, gathered'⟩ := unifyAllFrom_eq_some_iff.mp others
        refine ⟨met ++ met', .cons meets each, ?_⟩
        rw [gather_append, gathered, Option.bind_some, gathered']
      · rintro ⟨_, each, gathered⟩
        cases each with
        | cons first others =>
          rw [gather_append, Option.bind_eq_some_iff] at gathered
          obtain ⟨middle, gathered, gathered'⟩ := gathered
          exact ⟨middle, unifyFrom_eq_some_iff.mpr ⟨_, first, gathered⟩,
            unifyAllFrom_eq_some_iff.mpr ⟨_, others, gathered'⟩⟩

end

/-- A variable matches unless it is bound to something that does not equal the value. -/
theorem exists_unifyFrom_var_iff {bound : Env β} {name : String} {value : Value β} :
    (∃ found, unifyFrom bound (.var name) value = some found) ↔
      ∀ first, bound.lookup name = some first → first.equal value = true := by
  rw [unifyFrom]
  cases bound.lookup name with
  | none => exact ⟨fun _ => nofun, fun _ => ⟨bound.bind name value, rfl⟩⟩
  | some first =>
    simp only [Option.ite_none_right_eq_some, exists_and_left, Option.some.injEq, forall_eq']
    exact and_iff_left ⟨bound, rfl⟩

/-- A variable that matches is recorded. -/
theorem records_of_unifyFrom_var {bound found : Env β} {met : List (String × Value β)}
    {name : String} {value : Value β} (records : bound.Records met)
    (matched : unifyFrom bound (.var name) value = some found) :
    found.Records (met ++ [(name, value)]) := by
  rw [unifyFrom, records.looks] at matched
  cases known : met.lookup name with
  | none =>
    rw [known, Option.some.injEq] at matched
    exact matched ▸ records.bind known
  | some first =>
    rw [known, Option.ite_none_right_eq_some, Option.some.injEq] at matched
    exact matched.2 ▸ records.again (Option.isSome_of_eq_some known)

/-- The environment that is gathered records what was met. -/
theorem records_of_gather {met : List (String × Value β)} {found : Env β}
    (gathered : gather Env.empty met = some found) : found.Records met := by
  induction met using List.reverseRecOn generalizing found with
  | nil =>
    obtain rfl : Env.empty = found := Option.some.inj gathered
    exact .empty
  | append_singleton met occurrence ih =>
    rw [gather_append, Option.bind_eq_some_iff] at gathered
    obtain ⟨middle, gathered, last⟩ := gathered
    rw [gather_singleton] at last
    exact records_of_unifyFrom_var (ih gathered) last

/-- A match binds exactly the variables of the pattern. -/
theorem isSome_lookup_of_unify {pattern : Pattern β} {value : Value β} {found : Env β}
    (matched : pattern.unify value = some found) (name : String) :
    (found.lookup name).isSome ↔ name ∈ pattern.names := by
  obtain ⟨met, meets, gathered⟩ := unifyFrom_eq_some_iff.mp matched
  rw [(records_of_gather gathered).looks, ← meets.map_fst, isSome_lookup_iff]

end Pattern

end GrammarKit
