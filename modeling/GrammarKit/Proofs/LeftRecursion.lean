import GrammarKit.Proofs.Depth
import Mathlib.Logic.Relation
/-!
# What runs before the first symbol

A rule is left recursive when running its body can come to the rule itself before a symbol has been
used up. This module decides, from the shape of terms alone, which terms may accept without using
up a symbol (`Term.mayBeIdle`) and which rules a term may run before it has used one up
(`Term.leading`). Whether a rule may be idle depends on other rules; going round as often as there
are rules is enough (`mayBeIdle_of_body`).

Where no rule leads to itself (`Grammar.NotLeftRecursive`), the number of rules that a rule leads to
ranks the rules: every rule ranks above those it may run first (`rank_lt_of_mayEnter`).
-/

namespace GrammarKit

namespace Term

mutual

/-- Whether a term may accept without using up a symbol; `idle` says which rules may. -/
def mayBeIdle (idle : String → Bool) : Term → Bool
  | .pure _ | .optional .. | .lookAhead _ | .not _ | .many _ | .any _ | .foldl .. => true
  | .litString text => text.toList.isEmpty
  | .ref name => idle name
  | .always term _ | .token term | .acceptWhen term .. | .transform term _
  | .transformOrRefuse term _ | .entireInput term | .entireInputWith term .. | .many1 term
  | .any1 term | .foldl1 term .. | .foldlFrom _ term _ | .named _ term => mayBeIdle idle term
  | .iterate term count => count.toNat == 0 || mayBeIdle idle term
  | .seq terms | .nthOf _ terms => allMayBeIdle idle terms
  | .seq2 first second | .left first second | .right first second =>
    mayBeIdle idle first && mayBeIdle idle second
  | .seq3 first second third =>
    mayBeIdle idle first && mayBeIdle idle second && mayBeIdle idle third
  | .firstOf terms => someMayBeIdle idle terms
  | _ => false

/-- Whether several terms may all accept without using up a symbol. -/
def allMayBeIdle (idle : String → Bool) : List Term → Bool
  | [] => true
  | first :: others => mayBeIdle idle first && allMayBeIdle idle others

/-- Whether one of several terms may accept without using up a symbol. -/
def someMayBeIdle (idle : String → Bool) : List Term → Bool
  | [] => false
  | first :: others => mayBeIdle idle first || someMayBeIdle idle others

end

mutual

/-- The rules that a term may run before it has used up a symbol. -/
def leading (idle : String → Bool) : Term → List String
  | .ref name => [name]
  | .always term _ | .token term | .acceptWhen term .. | .optional term _ | .transform term _
  | .transformOrRefuse term _ | .lookAhead term | .not term | .entireInput term
  | .entireInputWith term .. | .many term | .many1 term | .any term | .any1 term | .foldl term ..
  | .foldl1 term .. | .named _ term => leading idle term
  | .iterate term count => if count.toNat = 0 then [] else leading idle term
  | .seq terms | .nthOf _ terms => leadingInOrder idle terms
  | .seq2 first second | .left first second | .right first second | .foldlFrom second first _ =>
    leading idle first ++ if mayBeIdle idle first then leading idle second else []
  | .seq3 first second third =>
    leading idle first ++ if mayBeIdle idle first then
      leading idle second ++ if mayBeIdle idle second then leading idle third else []
    else []
  | .firstOf terms => leadingAmong idle terms
  | _ => []

/-- The rules that terms one after the other may run before they have used up a symbol. -/
def leadingInOrder (idle : String → Bool) : List Term → List String
  | [] => []
  | first :: others =>
    leading idle first ++ if mayBeIdle idle first then leadingInOrder idle others else []

/-- The rules that terms tried instead of each other may run before they have used up a symbol. -/
def leadingAmong (idle : String → Bool) : List Term → List String
  | [] => []
  | first :: others => leading idle first ++ leadingAmong idle others

end

variable {idle idle' : String → Bool}

/-- Several terms may all be idle when each may. -/
theorem allMayBeIdle_eq_true {terms : List Term} :
    allMayBeIdle idle terms = true ↔ ∀ term ∈ terms, mayBeIdle idle term = true := by
  induction terms with
  | nil => simp [allMayBeIdle]
  | cons first others ih => rw [allMayBeIdle, Bool.and_eq_true, ih, List.forall_mem_cons]

/-- One of several terms may be idle when some term may. -/
theorem someMayBeIdle_eq_true {terms : List Term} :
    someMayBeIdle idle terms = true ↔ ∃ term ∈ terms, mayBeIdle idle term = true := by
  induction terms with
  | nil => simp [someMayBeIdle]
  | cons first others ih =>
    simp only [someMayBeIdle, Bool.or_eq_true, ih, List.mem_cons, exists_eq_or_imp]

/-- The more rules may be idle, the more terms may. -/
theorem mayBeIdle_mono (more : ∀ name, idle name = true → idle' name = true) (term : Term)
    (may : mayBeIdle idle term = true) : mayBeIdle idle' term = true := by
  induction term using induction_parts with
  | step term ih =>
    cases term with
    | ref name => exact more name may
    | seq terms | nthOf index terms =>
      rw [mayBeIdle, allMayBeIdle_eq_true] at may ⊢
      exact fun part member => ih part member (may part member)
    | firstOf terms =>
      rw [mayBeIdle, someMayBeIdle_eq_true] at may ⊢
      obtain ⟨part, member, may⟩ := may
      exact ⟨part, member, ih part member may⟩
    | seq2 first second | left first second | right first second =>
      simp only [mayBeIdle, Bool.and_eq_true, parts, List.forall_mem_cons] at may ih ⊢
      exact ⟨ih.1 may.1, ih.2.1 may.2⟩
    | seq3 first second third =>
      simp only [mayBeIdle, Bool.and_eq_true, parts, List.forall_mem_cons] at may ih ⊢
      exact ⟨⟨ih.1 may.1.1, ih.2.1 may.1.2⟩, ih.2.2.1 may.2⟩
    | foldlFrom term first f =>
      simp only [mayBeIdle, parts, List.forall_mem_cons] at may ih ⊢
      exact ih.1 may
    | iterate term count =>
      simp only [mayBeIdle, Bool.or_eq_true, parts, List.forall_mem_singleton] at may ih ⊢
      exact may.imp_right ih
    | always | token | acceptWhen | transform | transformOrRefuse | entireInput | entireInputWith
    | many1 | any1 | foldl1 | named =>
      simp only [mayBeIdle, parts, List.forall_mem_singleton] at may ih ⊢
      exact ih may
    | _ => exact may

end Term

namespace Grammar

variable {grammar : Grammar} {name other : String} {body : Term}

/-- Whether a rule may accept without using up a symbol, as far as going round the rules the given
number of times shows. -/
def idleWithin (grammar : Grammar) : Nat → String → Bool
  | 0, _ => false
  | rounds + 1, name =>
    match grammar.rule? name with
    | some body => body.mayBeIdle (grammar.idleWithin rounds)
    | none => false

/-- Whether a rule may accept without using up a symbol. -/
def mayBeIdle (grammar : Grammar) (name : String) : Bool :=
  grammar.idleWithin grammar.rules.length name

/-- Another round shows of a rule what the earlier rounds show of its body. -/
theorem idleWithin_succ (found : grammar.rule? name = some body) (rounds : Nat) :
    grammar.idleWithin (rounds + 1) name = body.mayBeIdle (grammar.idleWithin rounds) := by
  rw [idleWithin, found]

/-- Only names with rules are shown to be idle. -/
theorem mem_names_of_idleWithin {rounds : Nat} (may : grammar.idleWithin rounds name = true) :
    name ∈ grammar.names := by
  cases rounds with
  | zero => cases may
  | succ rounds =>
    cases found : grammar.rule? name with
    | none => simp [idleWithin, found] at may
    | some body => exact mem_names found

/-- Another round takes nothing back. -/
theorem idleWithin_grows (rounds : Nat) (name : String)
    (may : grammar.idleWithin rounds name = true) :
    grammar.idleWithin (rounds + 1) name = true := by
  induction rounds generalizing name with
  | zero => cases may
  | succ rounds ih =>
    cases found : grammar.rule? name with
    | none => simp [idleWithin, found] at may
    | some body =>
      rw [idleWithin_succ found] at may ⊢
      exact Term.mayBeIdle_mono ih body may

/-- The rules that so many rounds show to be idle. -/
def idleNames (grammar : Grammar) (rounds : Nat) : Finset String :=
  grammar.names.filter fun name => grammar.idleWithin rounds name = true

/-- Membership in the idle rules. -/
theorem mem_idleNames {rounds : Nat} :
    name ∈ grammar.idleNames rounds ↔ grammar.idleWithin rounds name = true := by
  rw [idleNames, Finset.mem_filter]
  exact ⟨And.right, fun may => ⟨mem_names_of_idleWithin may, may⟩⟩

/-- A round that shows nothing new is followed by rounds that show nothing new. -/
theorem idleNames_pauses (rounds : Nat)
    (paused : grammar.idleNames rounds = grammar.idleNames (rounds + 1)) :
    grammar.idleNames (rounds + 1) = grammar.idleNames (rounds + 2) := by
  have same : grammar.idleWithin rounds = grammar.idleWithin (rounds + 1) := by
    funext name
    rw [Bool.eq_iff_iff, ← mem_idleNames, ← mem_idleNames, paused]
  ext name
  rw [mem_idleNames, mem_idleNames, idleWithin, idleWithin, same]

/-- A rule may be idle when its body may: as many rounds as there are rules show all there is. -/
theorem mayBeIdle_of_body (found : grammar.rule? name = some body)
    (may : body.mayBeIdle grammar.mayBeIdle = true) : grammar.mayBeIdle name = true := by
  have grows (rounds : Nat) : grammar.idleNames rounds ⊆ grammar.idleNames (rounds + 1) := by
    intro name member
    exact mem_idleNames.mpr (idleWithin_grows rounds name (mem_idleNames.mp member))
  have small (rounds : Nat) : (grammar.idleNames rounds).card ≤ grammar.rules.length :=
    (Finset.card_filter_le _ _).trans (card_names_le grammar)
  have next : name ∈ grammar.idleNames (grammar.rules.length + 1) := by
    rw [mem_idleNames, idleWithin_succ found]
    exact may
  have settled := chain_subset_of_pause grows small idleNames_pauses (grammar.rules.length + 1)
  exact mem_idleNames.mp (settled next)

/-! ## Rules that lead to themselves -/

/-- Whether running the body of the first rule may run the second before a symbol has been used
up. -/
def MayEnter (grammar : Grammar) (name other : String) : Prop :=
  ∃ body, grammar.rule? name = some body ∧ other ∈ body.leading grammar.mayBeIdle

/-- Whether no rule leads to itself before a symbol has been used up. -/
def NotLeftRecursive (grammar : Grammar) : Prop :=
  ∀ name, ¬ Relation.TransGen grammar.MayEnter name name

/-- A grammar is not left recursive when its rules can be ranked above those they may run first. -/
theorem notLeftRecursive_of_rank (rank : String → Nat)
    (lower : ∀ name other, grammar.MayEnter name other → rank other < rank name) :
    grammar.NotLeftRecursive := by
  have falls {name other : String} (leads : Relation.TransGen grammar.MayEnter name other) :
      rank other < rank name := by
    induction leads with
    | single enters => exact lower _ _ enters
    | tail _ enters ih => exact (lower _ _ enters).trans ih
  exact fun name leads => Nat.lt_irrefl _ (falls leads)

open Classical in
/-- How many rules a rule leads to. -/
noncomputable def rank (grammar : Grammar) (name : String) : Nat :=
  (grammar.names.filter fun other => Relation.TransGen grammar.MayEnter name other).card

/-- A rule ranks above the rules that it may run first. -/
theorem rank_lt_of_mayEnter (acyclic : grammar.NotLeftRecursive)
    (enters : grammar.MayEnter name other) (found : grammar.rule? other = some body) :
    grammar.rank other < grammar.rank name := by
  classical
  apply Finset.card_lt_card
  refine (Finset.ssubset_iff_of_subset ?_).mpr ⟨other, ?_, ?_⟩
  · intro further member
    rw [Finset.mem_filter] at member ⊢
    exact ⟨member.1, .head enters member.2⟩
  · exact Finset.mem_filter.mpr ⟨mem_names found, .single enters⟩
  · exact fun member => acyclic other (Finset.mem_filter.mp member).2

/-- A rule leads to fewer rules than there are. -/
theorem rank_lt_length (acyclic : grammar.NotLeftRecursive)
    (found : grammar.rule? name = some body) : grammar.rank name < grammar.rules.length := by
  classical
  have fewer : grammar.rank name < grammar.names.card := by
    apply Finset.card_lt_card
    apply (Finset.ssubset_iff_of_subset (Finset.filter_subset _ _)).mpr
    exact ⟨name, mem_names found, fun member => acyclic name (Finset.mem_filter.mp member).2⟩
  exact fewer.trans_le (card_names_le grammar)

end Grammar

end GrammarKit
