import GrammarKit.Proofs.Position
import Mathlib.Data.Finset.Card
import Mathlib.Data.Finset.Prod
/-!
# The bound on the depth of rules

Rules are run to a bounded depth, which makes every run finite. The bound is not felt: deeper runs
give the same verdicts, except that a run cut short may come to a verdict (`ruleParser_deeper`), and
at the depth that `Grammar.parser` uses no further verdicts are gained
(`parser_verdict_eq_of_depthOn_le`). A verdict of `endless` therefore means that no depth would do.

The second part counts. There are only so many pairs of a rule and a place ahead of the start. Each
further level of depth settles some of them, or none and then no later level does either.
-/

namespace GrammarKit

open Input (Ahead)

/-- An increasing chain of finite sets that stays as it is once it has paused stops growing after as
many steps as the sets can have members. -/
theorem chain_subset_of_pause {α : Type} {level : Nat → Finset α} {bound : Nat}
    (grows : ∀ step, level step ⊆ level (step + 1)) (small : ∀ step, (level step).card ≤ bound)
    (pauses : ∀ step, level step = level (step + 1) → level (step + 1) = level (step + 2))
    (step : Nat) : level step ⊆ level bound := by
  have monotone {first second : Nat} (le : first ≤ second) : level first ⊆ level second :=
    monotone_nat_of_le_succ grows le
  by_cases paused : ∃ pause ≤ bound, level pause = level (pause + 1)
  · obtain ⟨pause, early, same⟩ := paused
    have stays (more : Nat) : level (pause + more) = level (pause + more + 1) := by
      induction more with
      | zero => exact same
      | succ more ih => exact pauses _ ih
    have constant (more : Nat) : level (pause + more) = level pause := by
      induction more with
      | zero => rfl
      | succ more ih => rw [← Nat.add_assoc, ← stays more, ih]
    calc
      level step ⊆ level (pause + step) := monotone (Nat.le_add_left _ _)
      _ = level pause := constant step
      _ ⊆ level bound := monotone early
  · -- Without a pause every step adds a member, one more than there is room for.
    have crowded (count : Nat) (le : count ≤ bound + 1) : count ≤ (level count).card := by
      induction count with
      | zero => exact Nat.zero_le _
      | succ count ih =>
        have strict : level count ⊂ level (count + 1) :=
          Finset.ssubset_iff_subset_ne.mpr
            ⟨grows count, fun same => paused ⟨count, by omega, same⟩⟩
        have larger := Finset.card_lt_card strict
        have fewer := ih (by omega)
        omega
    have full := crowded (bound + 1) (Nat.le_refl _)
    have room := small (bound + 1)
    omega

namespace Simulation

/-- A run beside a deeper one: the same inputs and errors, unless the first run is cut short. -/
def deeper : Simulation where
  onInput left right := left = right
  onError left right := left = right
  cutShort := True
  peek := by
    rintro left right rfl
    rfl
  remaining := by
    rintro left right rfl
    rfl
  past := by
    rintro left right symbol rfl -
    rfl
  moved := by
    rintro left right left' right' rfl rfl
    exact Iff.rfl
  fail := by
    rintro left right kind args rfl
    rfl
  pick := by
    rintro left right failed failed' error error' rfl kept rfl
    cases kept with
    | none => rfl
    | some errors => rw [errors]
  within := by
    rintro error error' name rfl
    rfl

/-- A run that is not cut short has the verdict of the deeper one. -/
theorem deeper_eq {α : Type} {verdict verdict' : Verdict α}
    (related : deeper.OnVerdict verdict verdict') (finished : verdict ≠ .fault .endless) :
    verdict' = verdict := by
  cases related with
  | accept value rests =>
    obtain rfl : _ = _ := rests
    rfl
  | reject errors =>
    obtain rfl : _ = _ := errors
    rfl
  | fault fault => rfl
  | cut => exact absurd rfl finished

/-- Runs beside each other ahead of a start have the same verdict. -/
theorem ahead_eq {α : Type} {start : Input} {verdict verdict' : Verdict α}
    (related : (ahead start).OnVerdict verdict verdict') : verdict' = verdict := by
  cases related with
  | accept value rests => rw [rests.1]
  | reject errors => rw [errors.1]
  | fault fault => rfl
  | cut allowed => exact allowed.elim

end Simulation

namespace Grammar

variable {grammar : Grammar} {start input : Input} {name : String}

/-- Rules run deeper give the same verdicts, unless they were cut short. -/
theorem ruleParser_deeper (grammar : Grammar) {depth depth' : Nat} (le : depth ≤ depth')
    (name : String) :
    Simulation.deeper.OnParser (grammar.ruleParser depth name)
      (grammar.ruleParser depth' name) := by
  induction depth generalizing depth' name with
  | zero => exact fun left right inputs => .cut trivial _
  | succ depth ih =>
    obtain ⟨deeper, rfl⟩ : ∃ deeper, depth' = deeper + 1 := ⟨depth' - 1, by omega⟩
    cases found : grammar.rule? name with
    | some body =>
      rw [ruleParser_succ found, ruleParser_succ found]
      exact Simulation.term (ih (by omega)) (Term.every_refusesWith (fun _ => rfl) body)
    | none =>
      rw [ruleParser_missing found, ruleParser_missing found]
      exact Simulation.stop (.missingRule name)

/-- The names that have rules. -/
def names (grammar : Grammar) : Finset String := (grammar.rules.map (·.1)).toFinset

/-- There are no more names than rules. -/
theorem card_names_le (grammar : Grammar) : grammar.names.card ≤ grammar.rules.length := by
  have few := (grammar.rules.map (·.1)).toFinset_card_le
  rwa [List.length_map] at few

/-- A name that finds a rule is one of the names. -/
theorem mem_names {body : Term} (found : grammar.rule? name = some body) :
    name ∈ grammar.names := by
  have member := mem_rules_of_rule? found
  simp only [names, List.mem_toFinset, List.mem_map]
  exact ⟨_, member, rfl⟩

open Classical in
/-- The names and places ahead of a start at which a rule comes to a verdict when rules are run one
level deeper than the given depth. -/
noncomputable def settled (grammar : Grammar) (start : Input) (depth : Nat) :
    Finset (String × Nat) :=
  (grammar.names ×ˢ Finset.range (start.remaining + 1)).filter fun entry =>
    (grammar.ruleParser (depth + 1) entry.1 (start.advance entry.2)).verdict ≠ .fault .endless

/-- Membership in what is settled. -/
theorem mem_settled {depth count : Nat} :
    (name, count) ∈ grammar.settled start depth ↔
      name ∈ grammar.names ∧ count ≤ start.remaining ∧
        (grammar.ruleParser (depth + 1) name (start.advance count)).verdict ≠ .fault .endless := by
  simp only [settled, Finset.mem_filter, Finset.mem_product, Finset.mem_range,
    Nat.lt_succ_iff, and_assoc]

/-- What is settled stays settled. -/
theorem settled_grows (grammar : Grammar) (start : Input) (depth : Nat) :
    grammar.settled start depth ⊆ grammar.settled start (depth + 1) := by
  rintro ⟨name, count⟩ member
  obtain ⟨known, near, finished⟩ := mem_settled.mp member
  have same := Simulation.deeper_eq
    (ruleParser_deeper grammar (Nat.le_succ (depth + 1)) name rfl) finished
  exact mem_settled.mpr ⟨known, near, by rwa [same]⟩

/-- No more can be settled than there are rules and places. -/
theorem card_settled_le (grammar : Grammar) (start : Input) (depth : Nat) :
    (grammar.settled start depth).card ≤ grammar.rules.length * (start.remaining + 1) := by
  calc
    (grammar.settled start depth).card ≤
        (grammar.names ×ˢ Finset.range (start.remaining + 1)).card := by
      classical exact Finset.card_filter_le _ _
    _ = grammar.names.card * (start.remaining + 1) := by
      rw [Finset.card_product, Finset.card_range]
    _ ≤ grammar.rules.length * (start.remaining + 1) :=
      Nat.mul_le_mul_right _ (card_names_le grammar)

/-- The rules at two depths, one no deeper than the other, run alike ahead of a start when the
deeper ones settle no more. -/
theorem ruleParser_ahead {depth depth' : Nat} (le : depth ≤ depth')
    (settles : grammar.settled start depth' ⊆ grammar.settled start depth) (name : String) :
    (Simulation.ahead start).OnParser (grammar.ruleParser (depth + 1) name)
      (grammar.ruleParser (depth' + 1) name) := by
  rintro left right ⟨rfl, ahead⟩
  have itself : (Simulation.ahead start).OnParser (grammar.ruleParser (depth + 1) name)
      (grammar.ruleParser (depth + 1) name) :=
    Simulation.ruleParser
      (fun name body found => Term.every_refusesWith (fun _ => ⟨rfl, trivial⟩) body) _ name
  have same : (grammar.ruleParser (depth' + 1) name left).verdict =
      (grammar.ruleParser (depth + 1) name left).verdict := by
    have deeper := ruleParser_deeper grammar (Nat.succ_le_succ le) name (Eq.refl left)
    by_cases finished : (grammar.ruleParser (depth + 1) name left).verdict = .fault .endless
    · cases found : grammar.rule? name with
      | none => rw [ruleParser_missing found, ruleParser_missing found]
      | some body =>
        obtain ⟨count, near, rfl⟩ := ahead
        have unsettled : (name, count) ∉ grammar.settled start depth := fun member =>
          (mem_settled.mp member).2.2 finished
        by_contra different
        rw [finished] at different
        exact unsettled (settles (mem_settled.mpr ⟨mem_names found, near, different⟩))
    · exact Simulation.deeper_eq deeper finished
  rw [same]
  exact itself ⟨rfl, ahead⟩

/-- Where one more level of depth settles nothing, the next settles nothing either. -/
theorem settled_pauses (grammar : Grammar) (start : Input) (depth : Nat)
    (paused : grammar.settled start depth = grammar.settled start (depth + 1)) :
    grammar.settled start (depth + 1) = grammar.settled start (depth + 2) := by
  have alike (name : String) : (Simulation.ahead start).OnParser
      (grammar.ruleParser (depth + 2) name) (grammar.ruleParser (depth + 3) name) := by
    cases found : grammar.rule? name with
    | some body =>
      rw [ruleParser_succ found, ruleParser_succ found]
      exact Simulation.term (ruleParser_ahead (Nat.le_succ depth) paused.symm.subset)
        (Term.every_refusesWith (fun _ => ⟨rfl, trivial⟩) body)
    | none =>
      rw [ruleParser_missing found, ruleParser_missing found]
      exact Simulation.stop (.missingRule name)
  apply Finset.Subset.antisymm (settled_grows grammar start (depth + 1))
  rintro ⟨name, count⟩ member
  obtain ⟨known, near, finished⟩ := mem_settled.mp member
  have same := Simulation.ahead_eq (alike name ⟨rfl, count, near, rfl⟩)
  exact mem_settled.mpr ⟨known, near, by rwa [← same]⟩

/-- The bound on the depth is not felt: rules run to any greater depth give the same verdict. -/
theorem parser_verdict_eq_of_depthOn_le (grammar : Grammar) (term : Term) (input : Input)
    {depth : Nat} (le : grammar.depthOn input ≤ depth) :
    (term.parser (grammar.ruleParser depth) input).verdict =
      (grammar.parser term input).verdict := by
  obtain ⟨deeper, rfl⟩ : ∃ deeper, depth = deeper + 1 :=
    ⟨depth - 1, by unfold depthOn at le; omega⟩
  have settles := chain_subset_of_pause (grammar.settled_grows input)
    (grammar.card_settled_le input) (grammar.settled_pauses input) deeper
  have alike := ruleParser_ahead (Nat.succ_le_succ_iff.mp le) settles
  exact Simulation.ahead_eq (Simulation.term alike
    (Term.every_refusesWith (fun _ => ⟨rfl, trivial⟩) term) ⟨rfl, .refl input⟩)

end Grammar

end GrammarKit
