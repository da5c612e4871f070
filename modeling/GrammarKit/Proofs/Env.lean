import GrammarKit.Env
/-!
# What environments bind

An environment is known by its lookups: two environments that agree on every name are
interchangeable, whatever bindings they hide and in whatever order they were made. Every operation
on environments puts bindings in front of those there were (`Env.push`), so what binding, binding
several names and extending do to lookups is read off the lookup of the bindings in front.
-/

namespace GrammarKit

/-- What a table has for a name is one of its entries. -/
theorem mem_of_lookup {α : Type} {entries : List (String × α)} {name : String} {found : α}
    (looked : entries.lookup name = some found) : (name, found) ∈ entries := by
  obtain ⟨before, after, rfl, -⟩ := List.lookup_eq_some_iff.mp looked
  simp

/-- A table has something for a name when one of its entries has the name. -/
theorem isSome_lookup_iff {α : Type} {entries : List (String × α)} {name : String} :
    (entries.lookup name).isSome ↔ name ∈ entries.map Prod.fst := by
  rw [List.lookup_isSome_iff, List.mem_map]
  exact exists_congr fun _ => and_congr_right fun _ => beq_iff_eq.trans eq_comm

/-- What comes first in a table is what its name refers to. -/
theorem lookup_cons_eq_ite {α : Type} (name wanted : String) (value : α)
    (entries : List (String × α)) :
    ((name, value) :: entries).lookup wanted =
      if wanted = name then some value else entries.lookup wanted := by
  rw [List.lookup_cons]
  by_cases same : wanted = name
  · simp only [same, BEq.rfl, ↓reduceIte]
  · simp only [same, beq_eq_false_iff_ne.mpr same, ↓reduceIte]

/-- Entries with different names can be looked up in any order. -/
theorem lookup_eq_of_perm {α : Type} {entries entries' : List (String × α)}
    (perm : entries.Perm entries') (distinct : (entries.map Prod.fst).Nodup) (wanted : String) :
    entries.lookup wanted = entries'.lookup wanted := by
  induction perm with
  | nil => rfl
  | cons entry perm ih =>
    obtain ⟨name, value⟩ := entry
    rw [lookup_cons_eq_ite, lookup_cons_eq_ite, ih (List.nodup_cons.mp distinct).2]
  | swap first second others =>
    obtain ⟨name, value⟩ := first
    obtain ⟨name', value'⟩ := second
    have apart : name' ≠ name := by
      rintro rfl
      exact (List.nodup_cons.mp distinct).1 (.head _)
    simp only [lookup_cons_eq_ite]
    by_cases here : wanted = name
    · rw [if_pos here, if_neg (here ▸ apart.symm), if_pos here]
    · rw [if_neg here, if_neg here]
  | trans first second ih ih' =>
    exact (ih distinct).trans (ih' ((first.map Prod.fst).nodup_iff.mp distinct))

/-- What is found in a table is its first item or is found in the rest. -/
theorem eq_or_lookup_of_lookup_cons {α : Type} {entries : List (String × α)} {name wanted : String}
    {item found : α} (looked : ((name, item) :: entries).lookup wanted = some found) :
    found = item ∨ entries.lookup wanted = some found := by
  rw [lookup_cons_eq_ite] at looked
  split at looked
  · exact .inl (Option.some.inj looked).symm
  · exact .inr looked

/-- What is found first in two tables whose entries in front are related and have the same name is
related. -/
theorem rel_lookup_cons {α : Type} {related : α → α → Prop} {entries entries' : List (String × α)}
    {item item' : α} (head : related item item') (wanted : String)
    (tail : Option.Rel related (entries.lookup wanted) (entries'.lookup wanted)) (name : String) :
    Option.Rel related (((name, item) :: entries).lookup wanted)
      (((name, item') :: entries').lookup wanted) := by
  rw [lookup_cons_eq_ite, lookup_cons_eq_ite]
  split
  · exact .some head
  · exact tail

namespace Env

variable {β : Type} {env env' : Env β} {name : String} {value : Value β}

/-- The environment with more bindings in front, the first of which is the most recent. -/
def push (env : Env β) (front : List (String × Value β)) : Env β := ⟨front ++ env.bindings⟩

/-- What is in front counts before what was there. -/
theorem lookup_push (env : Env β) (front : List (String × Value β)) (wanted : String) :
    (env.push front).lookup wanted = (front.lookup wanted).or (env.lookup wanted) :=
  List.lookup_append

/-- The newest binding of a name is the one that counts. -/
@[simp] theorem lookup_bind (env : Env β) (name : String) (value : Value β) (wanted : String) :
    (env.bind name value).lookup wanted =
      if wanted = name then some value else env.lookup wanted :=
  lookup_cons_eq_ite ..

/-- Binds names to values one after the other. -/
def bindAll (env : Env β) (entries : List (String × Value β)) : Env β :=
  entries.foldl (fun env entry => env.bind entry.1 entry.2) env

/-- Bindings made one after the other are in front, the latest first. -/
theorem bindAll_eq_push (env : Env β) (entries : List (String × Value β)) :
    env.bindAll entries = env.push entries.reverse := by
  induction entries generalizing env with
  | nil => rfl
  | cons entry entries ih =>
    have step := ih (env.bind entry.1 entry.2)
    simpa [bindAll, bind, push] using step

/-- Extending puts the visible bindings of the other environment in front. -/
theorem extend_eq_push (env other : Env β) : env.extend other = env.push other.visible := by
  have made := bindAll_eq_push env other.visible.reverse
  rwa [List.reverse_reverse] at made

/-- A name that has been seen is not visible any more, and any other is as it was. -/
theorem lookup_visibleFrom (seen : List String) (bindings : List (String × Value β))
    (wanted : String) :
    (visibleFrom seen bindings).lookup wanted =
      if wanted ∈ seen then none else bindings.lookup wanted := by
  fun_induction visibleFrom seen bindings with
  | case1 => simp
  | case2 seen name value others hidden ih =>
    by_cases same : wanted = name
    · rw [ih, same, if_pos hidden, if_pos hidden]
    · rw [ih, List.lookup_cons, beq_eq_false_iff_ne.mpr same]
  | case3 seen name value others shown ih =>
    rw [List.lookup_cons, List.lookup_cons, ih]
    by_cases same : wanted = name
    · simp [same, shown]
    · simp [same, beq_eq_false_iff_ne.mpr same]

/-- The visible bindings are those that lookups find. -/
theorem lookup_visible (env : Env β) (wanted : String) :
    env.visible.lookup wanted = env.lookup wanted := by
  rw [visible, lookup_visibleFrom, if_neg List.not_mem_nil, lookup]

/-- A visible binding is one of the bindings. -/
theorem mem_of_mem_visibleFrom {seen : List String} {bindings : List (String × Value β)}
    {entry : String × Value β} (member : entry ∈ visibleFrom seen bindings) : entry ∈ bindings := by
  fun_induction visibleFrom seen bindings with
  | case1 => exact member
  | case2 seen name value others hidden ih => exact .tail _ (ih member)
  | case3 seen name value others shown ih =>
    cases member with
    | head => exact .head _
    | tail _ later => exact .tail _ (ih later)

/-- A visible binding is the one that a lookup of its name finds, and its name was not seen
before. -/
theorem lookup_of_mem_visibleFrom {seen : List String} {bindings : List (String × Value β)}
    {entry : String × Value β} (member : entry ∈ visibleFrom seen bindings) :
    entry.1 ∉ seen ∧ bindings.lookup entry.1 = some entry.2 := by
  fun_induction visibleFrom seen bindings with
  | case1 => exact absurd member List.not_mem_nil
  | case2 seen name value others hidden ih =>
    obtain ⟨unseen, found⟩ := ih member
    have other : entry.1 ≠ name := fun same => unseen (same ▸ hidden)
    exact ⟨unseen, by rwa [List.lookup_cons, beq_eq_false_iff_ne.mpr other]⟩
  | case3 seen name value others shown ih =>
    cases member with
    | head => exact ⟨shown, by rw [List.lookup_cons, BEq.rfl]⟩
    | tail _ later =>
      obtain ⟨unseen, found⟩ := ih later
      obtain ⟨other, unseen⟩ := not_or.mp (mt List.mem_cons.mpr unseen)
      exact ⟨unseen, by rwa [List.lookup_cons, beq_eq_false_iff_ne.mpr other]⟩

/-- Whether two environments bind the same names to the same values. -/
def Agrees (env env' : Env β) : Prop := ∀ wanted, env.lookup wanted = env'.lookup wanted

namespace Agrees

/-- An environment agrees with itself. -/
theorem refl (env : Env β) : env.Agrees env := fun _ => rfl

/-- The same bindings in front keep environments in agreement. -/
theorem push (agrees : env.Agrees env') (front : List (String × Value β)) :
    (env.push front).Agrees (env'.push front) := by
  intro wanted
  rw [lookup_push, lookup_push, agrees wanted]

/-- A binding of the same name in front hides the one underneath. -/
theorem push_over (agrees : env.Agrees (env'.bind name value)) (front : List (String × Value β))
    (bound : (front.lookup name).isSome) : (env.push front).Agrees (env'.push front) := by
  intro wanted
  rw [lookup_push, lookup_push, agrees wanted, lookup_bind]
  by_cases here : wanted = name
  · obtain ⟨newer, newest⟩ := Option.isSome_iff_exists.mp bound
    rw [here, newest, Option.some_or, Option.some_or]
  · rw [if_neg here]

/-- Bindings of other names in front leave the one underneath to be seen. -/
theorem push_beside (agrees : env.Agrees (env'.bind name value))
    (front : List (String × Value β)) (free : front.lookup name = none) :
    (env.push front).Agrees ((env'.push front).bind name value) := by
  intro wanted
  rw [lookup_push, agrees wanted, lookup_bind, lookup_bind]
  by_cases here : wanted = name
  · rw [here, free, if_pos rfl, if_pos rfl, Option.none_or]
  · rw [if_neg here, if_neg here, lookup_push]

/-- A binding of an optional name in front either hides the one underneath, being of its name, or
leaves it to be seen. -/
theorem bind_unless_empty (agrees : env.Agrees (env'.bind name value)) (other : String)
    (item : Value β) :
    (other = name ∧ other ≠ "") ∧ (if other = "" then env else env.bind other item).Agrees
        (if other = "" then env' else env'.bind other item) ∨
      ¬ (other = name ∧ other ≠ "") ∧ (if other = "" then env else env.bind other item).Agrees
        ((if other = "" then env' else env'.bind other item).bind name value) := by
  by_cases unnamed : other = ""
  · rw [if_pos unnamed, if_pos unnamed]
    exact .inr ⟨fun both => both.2 unnamed, agrees⟩
  · rw [if_neg unnamed, if_neg unnamed]
    by_cases same : other = name
    · exact .inl ⟨⟨same, unnamed⟩, agrees.push_over [(other, item)] (by simp [same])⟩
    · exact .inr ⟨fun both => same both.1,
        agrees.push_beside [(other, item)] (by simp [Ne.symm same])⟩

/-- Different names can be bound in any order. -/
theorem bindAll_of_perm {entries entries' : List (String × Value β)}
    (perm : entries.Perm entries') (distinct : (entries.map Prod.fst).Nodup) (env : Env β) :
    (env.bindAll entries).Agrees (env.bindAll entries') := by
  intro wanted
  have backwards : entries.reverse.Perm entries'.reverse :=
    entries.reverse_perm.trans (perm.trans entries'.reverse_perm.symm)
  have still : (entries.reverse.map Prod.fst).Nodup :=
    (entries.reverse_perm.map Prod.fst).nodup_iff.mpr distinct
  rw [bindAll_eq_push, bindAll_eq_push, lookup_push, lookup_push,
    lookup_eq_of_perm backwards still]

end Agrees

/-- Names bound one by one to as many values are found. -/
theorem isSome_lookup_zip (names : List String) {values : List (Value β)}
    (same : values.length = names.length) (wanted : String) :
    ((names.zip values).reverse.lookup wanted).isSome ↔ wanted ∈ names := by
  have firsts : (names.zip values).map Prod.fst = names := List.map_fst_zip (Nat.le_of_eq same.symm)
  rw [isSome_lookup_iff, List.map_reverse, firsts, List.mem_reverse]

end Env

end GrammarKit
