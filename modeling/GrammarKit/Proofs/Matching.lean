import GrammarKit.Proofs.Pattern
/-!
# What a match is

A pattern matches a value when the two can be walked together and every variable that is met again
on the walk meets a value equal to the first (`Pattern.Agreeing`). The match then binds the
variables of the pattern to what they met first (`Pattern.unify_iff_meets`).
-/

namespace GrammarKit.Pattern

variable {β : Type} [Payload β]

/-- Whether every name that is met again meets a value that the first one equals. -/
def Agreeing (met : List (String × Value β)) : Prop :=
  ∀ before name value after, met = before ++ (name, value) :: after →
    ∀ first, before.lookup name = some first → first.equal value = true

/-- Where nothing is met everything agrees. -/
theorem agreeing_nil : Agreeing ([] : List (String × Value β)) := by
  intro before name value after split
  exact absurd split (by simp)

/-- One more occurrence has to agree with the first of its name. -/
theorem agreeing_concat {met : List (String × Value β)} {name : String} {value : Value β} :
    Agreeing (met ++ [(name, value)]) ↔
      Agreeing met ∧ ∀ first, met.lookup name = some first → first.equal value = true := by
  constructor
  · intro agreeing
    refine ⟨fun before name' value' after split => ?_, agreeing met name value [] rfl⟩
    exact agreeing before name' value' (after ++ [(name, value)]) (by simp [split])
  · rintro ⟨agreeing, last⟩ before name' value' after split
    rcases after.eq_nil_or_concat with rfl | ⟨after, occurrence, rfl⟩
    · obtain ⟨rfl, rfl, rfl⟩ : met = before ∧ name = name' ∧ value = value' := by
        simpa using split
      exact last
    · rw [List.concat_eq_append, ← List.cons_append, ← List.append_assoc] at split
      exact agreeing before name' value' after (List.append_inj_left' split rfl)

/-- What was met is gathered exactly when it agrees. -/
theorem exists_gather_iff_agreeing {met : List (String × Value β)} :
    (∃ found, gather Env.empty met = some found) ↔ Agreeing met := by
  induction met using List.reverseRecOn with
  | nil => exact ⟨fun _ => agreeing_nil, fun _ => ⟨Env.empty, rfl⟩⟩
  | append_singleton met occurrence ih =>
    obtain ⟨name, value⟩ := occurrence
    have last {middle : Env β} (gathered : gather Env.empty met = some middle) :
        (∃ found, gather middle [(name, value)] = some found) ↔
          ∀ first, met.lookup name = some first → first.equal value = true := by
      rw [gather_singleton, exists_unifyFrom_var_iff, (records_of_gather gathered).looks]
    simp only [gather_append, Option.bind_eq_some_iff, agreeing_concat, ← ih]
    constructor
    · rintro ⟨found, middle, gathered, more⟩
      exact ⟨⟨middle, gathered⟩, (last gathered).mp ⟨found, more⟩⟩
    · rintro ⟨⟨middle, gathered⟩, agrees⟩
      obtain ⟨found, more⟩ := (last gathered).mpr agrees
      exact ⟨found, middle, gathered, more⟩

/-- A pattern matches exactly the values that it fits so that every variable that is met again meets
a value equal to its first. The match then binds the variables of the pattern, each of them once and
to the value that it met first. -/
theorem unify_iff_meets (pattern : Pattern β) (value : Value β) :
    ((∃ found, pattern.unify value = some found) ↔
      ∃ met, pattern.Meets value met ∧ Agreeing met) ∧
    ∀ found, pattern.unify value = some found →
      (found.bindings.map Prod.fst).Nodup ∧
      (∀ name, name ∈ found.bindings.map Prod.fst ↔ name ∈ pattern.names) ∧
      ∃ met, pattern.Meets value met ∧ met.map Prod.fst = pattern.names ∧
        ∀ name, found.lookup name = met.lookup name := by
  constructor
  · simp only [unify, unifyFrom_eq_some_iff, ← exists_gather_iff_agreeing]
    exact ⟨fun ⟨found, met, meets, gathered⟩ => ⟨met, meets, found, gathered⟩,
      fun ⟨met, meets, found, gathered⟩ => ⟨found, met, meets, gathered⟩⟩
  · intro found matched
    obtain ⟨met, meets, gathered⟩ := unifyFrom_eq_some_iff.mp matched
    have records : found.Records met := records_of_gather gathered
    refine ⟨records.once, fun name => ?_, met, meets, meets.map_fst, records.looks⟩
    rw [records.mem_names, ← records.looks, isSome_lookup_of_unify matched]

end GrammarKit.Pattern
