import GrammarKit.Proofs.Env
import Mathlib.Data.List.Nodup
/-!
# Names in the order of their latest bindings

The visible names of an environment are in the order in which they were last bound, the latest
first. To bind a name moves it to the front (`Env.names_bind`), and to bind several different names
in order leaves them in front, the last one first, while the other names stay in order behind them
(`Env.names_bindAll`). An environment laid over another one therefore shows its own names in its own
order before what it does not hide (`Env.extend_keeps_recency`): its visible bindings are made again
from the oldest to the latest.
-/

namespace GrammarKit

namespace Env

variable {β : Type}

/-- Every environment is made from the empty one by binding one name after the other. -/
theorem induction_bind {motive : Env β → Prop} (empty : motive empty)
    (bind : ∀ env name value, motive env → motive (bind env name value)) (env : Env β) :
    motive env := by
  obtain ⟨bindings⟩ := env
  induction bindings with
  | nil => exact empty
  | cons binding bindings ih => exact bind ⟨bindings⟩ binding.1 binding.2 ih

/-! ## The visible names -/

/-- Names that are hidden from the start are left out of what is visible. -/
theorem visibleFrom_eq_filter {seen more hidden : List String}
    (parted : ∀ name, name ∈ more ↔ name ∈ seen ∨ name ∈ hidden)
    (bindings : List (String × Value β)) :
    visibleFrom more bindings = (visibleFrom seen bindings).filter (·.1 ∉ hidden) := by
  induction bindings generalizing seen more with
  | nil => rfl
  | cons binding others ih =>
    obtain ⟨name, value⟩ := binding
    rw [visibleFrom, visibleFrom]
    by_cases old : name ∈ seen
    · rw [if_pos ((parted name).mpr (.inl old)), if_pos old]
      exact ih parted
    · by_cases off : name ∈ hidden
      · -- The name is hidden in any case, so it does not matter that it is seen from here on.
        rw [if_pos ((parted name).mpr (.inr off)), if_neg old, List.filter_cons_of_neg (by simpa)]
        refine ih fun other => ?_
        rw [parted, List.mem_cons]
        by_cases same : other = name
        · simp [same, off]
        · simp [same]
      · rw [if_neg (mt (parted name).mp (not_or.mpr ⟨old, off⟩)), if_neg old,
          List.filter_cons_of_pos (by simpa)]
        refine congrArg _ (ih fun other => ?_)
        rw [List.mem_cons, List.mem_cons, parted, or_assoc]

/-- A name that is bound is in front of all others, wherever it was before. -/
theorem names_bind (env : Env β) (name : String) (value : Value β) :
    (env.bind name value).names = name :: env.names.filter (· ≠ name) := by
  have others : visibleFrom [name] env.bindings = env.visible.filter (·.1 ∉ [name]) :=
    visibleFrom_eq_filter (by simp) env.bindings
  rw [names, visible, bind, visibleFrom, if_neg List.not_mem_nil, others, List.map_cons, names,
    List.filter_map]
  simp [Function.comp_def]

/-- The visible names are those that a lookup finds. -/
theorem mem_names (env : Env β) (name : String) : name ∈ env.names ↔ (env.lookup name).isSome := by
  rw [← lookup_visible, isSome_lookup_iff, names]

/-! ## How long ago a name was bound -/

/-- How many bindings have been made since the latest one of a name, or at all where it has none. -/
def age (env : Env β) (name : String) : Nat := (env.bindings.map Prod.fst).idxOf name

/-- A new binding makes its name the latest and all others older by one. -/
theorem age_bind (env : Env β) (name : String) (value : Value β) (wanted : String) :
    (env.bind name value).age wanted = if wanted = name then 0 else env.age wanted + 1 := by
  rw [age, bind, List.map_cons]
  by_cases same : wanted = name
  · rw [if_pos same, same, List.idxOf_cons_self]
  · rw [if_neg same, List.idxOf_cons_ne _ (Ne.symm same)]
    rfl

/-- The visible names are in the order of their latest bindings. -/
theorem pairwise_age_names (env : Env β) :
    env.names.Pairwise fun newer older => env.age newer < env.age older := by
  induction env using induction_bind with
  | empty => exact .nil
  | bind env name value ih =>
    rw [names_bind]
    refine .cons (fun older member => ?_) ?_
    · have other : older ≠ name := by simpa using (List.mem_filter.mp member).2
      rw [age_bind, age_bind, if_pos rfl, if_neg other]
      exact Nat.succ_pos _
    · refine (ih.filter _).imp_of_mem fun {newer older} here there before => ?_
      have apart : newer ≠ name := by simpa using (List.mem_filter.mp here).2
      have apart' : older ≠ name := by simpa using (List.mem_filter.mp there).2
      rw [age_bind, age_bind, if_neg apart, if_neg apart']
      exact Nat.succ_lt_succ before

/-- No name is visible twice. -/
theorem nodup_names (env : Env β) : env.names.Nodup :=
  env.pairwise_age_names.imp fun before same => absurd (same ▸ before) (Nat.lt_irrefl _)

/-! ## Environments laid over each other -/

/-- Different names that are bound in order are in front of all others, the last one first. -/
theorem names_bindAll (env : Env β) {entries : List (String × Value β)}
    (distinct : (entries.map Prod.fst).Nodup) :
    (env.bindAll entries).names =
      (entries.map Prod.fst).reverse ++ env.names.filter (· ∉ entries.map Prod.fst) := by
  induction entries generalizing env with
  | nil => exact (List.filter_eq_self.mpr fun _ _ => rfl).symm
  | cons entry entries ih =>
    obtain ⟨name, value⟩ := entry
    obtain ⟨new, distinct⟩ := List.nodup_cons.mp distinct
    have step := ih (env.bind name value) distinct
    rw [names_bind, List.filter_cons_of_pos (by simpa using new), List.filter_filter] at step
    rw [bindAll, List.foldl_cons, ← bindAll, step, List.map_cons, List.reverse_cons,
      List.append_assoc, List.singleton_append]
    refine congrArg (fun shown => _ ++ name :: shown) (List.filter_congr fun other _ => ?_)
    simp [Bool.and_comm, Bool.beq_eq_decide_eq]

/-- What the environment on top binds counts first. -/
theorem lookup_extend (env other : Env β) (name : String) :
    (env.extend other).lookup name = (other.lookup name).or (env.lookup name) := by
  rw [extend_eq_push, lookup_push, lookup_visible]

/-- The names of the environment on top come first, then those that it does not hide. -/
theorem names_extend (env other : Env β) :
    (env.extend other).names =
      other.names ++ env.names.filter fun name => (other.lookup name).isNone := by
  have firsts : other.visible.reverse.map Prod.fst = other.names.reverse := List.map_reverse
  have distinct : (other.visible.reverse.map Prod.fst).Nodup := by
    rw [firsts, List.nodup_reverse]
    exact other.nodup_names
  have made := env.names_bindAll distinct
  rw [firsts, List.reverse_reverse] at made
  refine made.trans (congrArg _ (List.filter_congr fun name _ => ?_))
  rw [Bool.eq_iff_iff, decide_eq_true_iff, List.mem_reverse, mem_names,
    Option.not_isSome_iff_eq_none, Option.isNone_iff_eq_none]

/-- The names of an environment are those that a lookup finds, each once and the latest bound first.
An environment laid over another one hides what it binds itself, and its names come before those
that it leaves to be seen, both in their own order. -/
theorem extend_keeps_recency (env other : Env β) :
    (env.names.Nodup ∧ (∀ name, name ∈ env.names ↔ (env.lookup name).isSome) ∧
      env.names.Pairwise fun newer older => env.age newer < env.age older) ∧
    (∀ name, (env.extend other).lookup name = (other.lookup name).or (env.lookup name)) ∧
    (env.extend other).names =
      other.names ++ env.names.filter fun name => (other.lookup name).isNone :=
  ⟨⟨env.nodup_names, env.mem_names, env.pairwise_age_names⟩, env.lookup_extend other,
    env.names_extend other⟩

/-- What is bound once more moves to the front, and what is hidden does not appear twice. -/
example : ((ofList [("x", .int 1), ("y", .int 2), ("w", .int 3), ("x", .int 4)]).extend
    (ofList [("y", .int 5), ("z", .int 6)]) : Env Empty).names = ["z", "y", "x", "w"] := by
  decide

end Env

end GrammarKit
