import GrammarKit.Proofs.Position
/-!
# Ordered choice

While its branches reject, a choice keeps one error: after each branch the policy picks between the
error kept so far and the new one. What this comes to over all branches can be said without any
picking (`ErrorPolicy.Chooses`): the last error, or the latest among those furthest into the source.
Picking is associative (`ErrorPolicy.pick_pick`), so it does not matter how branches are grouped,
and a choice inside a choice may be spelled out in its place. A parser that all branches begin with
may be run once in front of the choice: where it rejects, picking its own error again and again
changes nothing, and where it accepts, both choices pick among the same errors.
-/

namespace GrammarKit

variable {α β : Type}

namespace ErrorPolicy

/-- Whether an error is the one to report when the branches of a choice reject with the given
errors, in this order. -/
def Chooses : ErrorPolicy → List ParseError → ParseError → Prop
  | .last, errors, error => errors.getLast? = some error
  | .furthest, errors, error =>
    ∃ earlier later, errors = earlier ++ error :: later ∧
      (∀ other ∈ earlier, other.location.cursor ≤ error.location.cursor) ∧
      ∀ other ∈ later, other.location.cursor < error.location.cursor

variable {policy : ErrorPolicy} {errors : List ParseError} {error kept other : ParseError}

/-- Of two errors the policy `furthest` picks the one kept so far only if the new one is before
it. -/
theorem pick_furthest (kept error : ParseError) :
    furthest.pick (some kept) error =
      if error.location.cursor < kept.location.cursor then kept else error := by
  simp only [pick, Location.before, decide_eq_true_eq]

/-- Without an error kept so far any policy picks the new one. -/
theorem pick_none (policy : ErrorPolicy) (error : ParseError) : policy.pick none error = error := by
  cases policy <;> rfl

/-- Picking between an error and itself changes nothing. -/
theorem pick_self (policy : ErrorPolicy) (error : ParseError) :
    policy.pick (some error) error = error := by
  cases policy with
  | last => rfl
  | furthest => rw [pick_furthest, if_neg (Int.lt_irrefl _)]

/-- It does not matter which errors are picked among first. -/
theorem pick_pick (policy : ErrorPolicy) (failed : Option ParseError) (kept error : ParseError) :
    policy.pick failed (policy.pick (some kept) error) =
      policy.pick (some (policy.pick failed kept)) error := by
  cases policy with
  | last => rfl
  | furthest =>
    cases failed with
    | none => rw [pick_none, pick_none]
    | some first =>
      simp only [pick_furthest]
      -- The three errors are compared two by two; either side keeps the latest of the furthest.
      by_cases behind : kept.location.cursor < first.location.cursor
      · by_cases before : error.location.cursor < kept.location.cursor
        · have : error.location.cursor < first.location.cursor := Int.lt_trans before behind
          simp only [behind, before, this, ↓reduceIte]
        · simp only [behind, before, ↓reduceIte]
      · by_cases before : error.location.cursor < kept.location.cursor
        · simp only [behind, before, ↓reduceIte]
        · have : ¬ error.location.cursor < first.location.cursor := by omega
          simp only [behind, before, this, ↓reduceIte]

namespace Chooses

/-- The error of a single branch is chosen. -/
theorem single (policy : ErrorPolicy) (error : ParseError) : policy.Chooses [error] error := by
  cases policy with
  | last => rfl
  | furthest => exact ⟨[], [], rfl, nofun, nofun⟩

/-- Picking between the chosen error and that of one more branch chooses among all of them. -/
theorem concat (chosen : policy.Chooses errors kept) (error : ParseError) :
    policy.Chooses (errors ++ [error]) (policy.pick (some kept) error) := by
  cases policy with
  | last => exact List.getLast?_concat
  | furthest =>
    obtain ⟨earlier, later, rfl, before, after⟩ := chosen
    rw [pick_furthest]
    by_cases behind : error.location.cursor < kept.location.cursor
    · rw [if_pos behind]
      refine ⟨earlier, later ++ [error], by simp, before, ?_⟩
      intro other member
      obtain old | new := List.mem_append.mp member
      · exact after other old
      · rwa [List.mem_singleton.mp new]
    · rw [if_neg behind]
      refine ⟨earlier ++ kept :: later, [], by simp, ?_, nofun⟩
      have reached : kept.location.cursor ≤ error.location.cursor := Int.not_lt.mp behind
      intro other member
      obtain old | same | young := List.mem_append.mp member |>.imp_right List.mem_cons.mp
      · exact Int.le_trans (before other old) reached
      · rwa [same]
      · exact Int.le_trans (Int.le_of_lt (after other young)) reached

/-- One error at most is chosen. -/
theorem unique (chosen : policy.Chooses errors error) (chosen' : policy.Chooses errors other) :
    error = other := by
  cases policy with
  | last => exact Option.some.inj (chosen.symm.trans chosen')
  | furthest =>
    obtain ⟨earlier, later, rfl, before, after⟩ := chosen
    obtain ⟨earlier', later', same, before', after'⟩ := chosen'
    -- Were the two at different places, the one in front would be both before the other and not.
    obtain ⟨between, longer, rest⟩ | ⟨between, longer, rest⟩ := List.append_eq_append_iff.mp same
    · cases between with
      | nil => exact (List.cons.inj rest).1
      | cons first between =>
        obtain ⟨rfl, rfl⟩ := List.cons.inj rest
        have front := before' error (longer ▸ by simp)
        have back := after other (by simp)
        omega
    · cases between with
      | nil => exact (List.cons.inj rest).1.symm
      | cons first between =>
        obtain ⟨rfl, rfl⟩ := List.cons.inj rest
        have front := before other (longer ▸ by simp)
        have back := after' error (by simp)
        omega

end Chooses

end ErrorPolicy

/-- It does not matter how going on after errors is grouped. -/
theorem Outcome.orElse_orElse (outcome : Outcome α) (next later : ParseError → Outcome α) :
    (outcome.orElse next).orElse later = outcome.orElse fun error => (next error).orElse later := by
  obtain ⟨records, verdict⟩ := outcome
  cases verdict with
  | accept | fault => rfl
  | reject error =>
    change (after records (next error)).orElse later = after records ((next error).orElse later)
    obtain ⟨written, verdict⟩ := next error
    cases verdict with
    | accept | fault => rfl
    | reject error' => simp only [after, orElse, List.append_assoc]

namespace Parser

variable {input rest : Input} {parsers : List (Parser α)} {errors : List ParseError}

/-! ## The error of a choice -/

/-- Whether parsers reject an input with the given errors, one by one. -/
abbrev RejectWith (parsers : List (Parser α)) (input : Input) : List ParseError → Prop :=
  List.Forall₂ (fun parser error => (parser input).verdict = .reject error) parsers

/-- A choice that goes on with branches that all reject reports the error chosen among those so far
and those of the branches. -/
theorem exists_chooses_of_rejectWith {seen : List ParseError} {kept : ParseError}
    (chosen : input.surroundings.errorPolicy.Chooses seen kept)
    (rejected : RejectWith parsers input errors) :
    ∃ error, (firstOfAfter (some kept) parsers input).verdict = .reject error ∧
      input.surroundings.errorPolicy.Chooses (seen ++ errors) error := by
  induction rejected generalizing seen kept with
  | nil => exact ⟨kept, rfl, by rwa [List.append_nil]⟩
  | cons first others ih =>
    obtain ⟨error, reported, among⟩ := ih (chosen.concat _)
    refine ⟨error, ?_, by rwa [List.append_assoc] at among⟩
    rw [firstOfAfter, Outcome.verdict_orElse, first]
    exact reported

/-- A choice whose branches all reject reports the error chosen among theirs. -/
theorem exists_chooses_firstOf (nonempty : parsers ≠ [])
    (rejected : RejectWith parsers input errors) :
    ∃ error, (firstOf parsers input).verdict = .reject error ∧
      input.surroundings.errorPolicy.Chooses errors error := by
  cases rejected with
  | nil => exact absurd rfl nonempty
  | cons first others =>
    rw [firstOf, firstOfAfter, Outcome.verdict_orElse, first]
    simp only [ErrorPolicy.pick_none]
    exact exists_chooses_of_rejectWith (.single ..) others

/-! ## Choices inside a choice -/

/-- Branches tried after a first error, as a choice that keeps this error, are tried as well when
they are in their place in a choice that keeps another. -/
theorem orElse_firstOfAfter_some (failed : Option ParseError) (kept : ParseError)
    (inner last : List (Parser α)) (input : Input) :
    ((firstOfAfter (some kept) inner input).orElse fun error =>
        firstOfAfter (some (input.surroundings.errorPolicy.pick failed error)) last input) =
      firstOfAfter (some (input.surroundings.errorPolicy.pick failed kept)) (inner ++ last)
        input := by
  induction inner generalizing kept with
  | nil => rfl
  | cons first others ih =>
    rw [List.cons_append, firstOfAfter, firstOfAfter, Outcome.orElse_orElse]
    simp only [ih, ErrorPolicy.pick_pick]

/-- A choice in front of the branches that are left may be spelled out, if it has branches. -/
theorem firstOfAfter_firstOf (failed : Option ParseError) {inner : List (Parser α)}
    (nonempty : inner ≠ []) (last : List (Parser α)) :
    firstOfAfter failed (firstOf inner :: last) = firstOfAfter failed (inner ++ last) := by
  funext input
  cases inner with
  | nil => exact absurd rfl nonempty
  | cons first others =>
    simp only [List.cons_append, firstOf, firstOfAfter, Outcome.orElse_orElse,
      ErrorPolicy.pick_none, orElse_firstOfAfter_some]

/-- A choice among the branches of a choice may be spelled out, if it has branches. -/
theorem firstOfAfter_append_firstOf (failed : Option ParseError) (first : List (Parser α))
    {inner : List (Parser α)} (nonempty : inner ≠ []) (last : List (Parser α)) :
    firstOfAfter failed (first ++ firstOf inner :: last) =
      firstOfAfter failed (first ++ (inner ++ last)) := by
  induction first generalizing failed with
  | nil => exact firstOfAfter_firstOf failed nonempty last
  | cons parser others ih =>
    funext input
    rw [List.cons_append, List.cons_append, firstOfAfter, firstOfAfter]
    simp only [ih]

/-- A choice whose branches all reject rejects with exactly the error that the policy chooses among
theirs. A choice among the branches of a choice, if it has branches itself, may be spelled out in
its place without any difference, be it in values, errors, faults or records. -/
theorem firstOf_chooses_and_flattens :
    (∀ (parsers : List (Parser α)) (input : Input) (errors : List ParseError), parsers ≠ [] →
      RejectWith parsers input errors →
        ∃ error, (firstOf parsers input).verdict = .reject error ∧
          ∀ other, input.surroundings.errorPolicy.Chooses errors other ↔ other = error) ∧
    ∀ first inner last : List (Parser α), inner ≠ [] →
      firstOf (first ++ firstOf inner :: last) = firstOf (first ++ inner ++ last) := by
  constructor
  · intro parsers input errors nonempty rejected
    obtain ⟨error, reported, chosen⟩ := exists_chooses_firstOf nonempty rejected
    refine ⟨error, reported, fun other => ⟨fun chosen' => chosen'.unique chosen, ?_⟩⟩
    rintro rfl
    exact chosen
  · intro first inner last nonempty
    rw [List.append_assoc]
    exact firstOfAfter_append_firstOf none first nonempty last

/-- Three texts, of which two begin alike. -/
def spellings : List (Parser String) := [litString "ab", litString "ac", litString "x"]

/-- A source that two of the texts are like at first, under a policy. -/
def misspelt (policy : ErrorPolicy) : Input := .ofSymbols ['a', 'd'] { errorPolicy := policy }

/-- The error of a text at a place of that source, where another symbol is found. -/
def misspelling (place : Nat) (found text : String) : ParseError :=
  ((misspelt .last).advance place).fail ErrorKind.literalExpected [.text found, .text text]

/-- The errors of the first two texts are further into the source than that of the third. The policy
`last` reports the third all the same, and the policy `furthest` the second; the choice between the
first two may stand on its own. -/
theorem firstOf_chooses_and_flattens_spellings :
    spellings ≠ [] ∧
    (∀ policy, RejectWith spellings (misspelt policy)
      [misspelling 1 "d" "ab", misspelling 1 "d" "ac", misspelling 0 "a" "x"]) ∧
    (firstOf spellings (misspelt .last)).verdict = .reject (misspelling 0 "a" "x") ∧
    (firstOf spellings (misspelt .furthest)).verdict = .reject (misspelling 1 "d" "ac") ∧
    firstOf [firstOf [litString "ab", litString "ac"], litString "x"] = firstOf spellings := by
  have nonempty : spellings ≠ [] := List.cons_ne_nil _ _
  have rejected (policy : ErrorPolicy) : RejectWith spellings (misspelt policy)
      [misspelling 1 "d" "ab", misspelling 1 "d" "ac", misspelling 0 "a" "x"] :=
    .cons rfl (.cons rfl (.cons rfl .nil))
  obtain ⟨chooses, flattens⟩ := firstOf_chooses_and_flattens (α := String)
  obtain ⟨newest, reported, only⟩ := chooses spellings (misspelt .last) _ nonempty (rejected _)
  obtain ⟨latest, reported', only'⟩ :=
    chooses spellings (misspelt .furthest) _ nonempty (rejected _)
  refine ⟨nonempty, rejected, ?_, ?_, ?_⟩
  · have third : misspelling 0 "a" "x" = newest := (only _).mp rfl
    rw [reported, third]
  · have second : misspelling 1 "d" "ac" = latest :=
      (only' _).mp ⟨[misspelling 1 "d" "ab"], [misspelling 0 "a" "x"], rfl, by decide, by decide⟩
    rw [reported', second]
  · exact flattens [] [litString "ab", litString "ac"] [litString "x"] (List.cons_ne_nil _ _)

/-! ## What all branches begin with -/

/-- A choice among images is the image of the choice. -/
theorem verdict_firstOf_map (f : α → β) (parsers : List (Parser α)) (input : Input) :
    (firstOf (parsers.map (map f)) input).verdict = (firstOf parsers input).verdict.map f := by
  unfold firstOf
  generalize none = failed
  induction parsers generalizing failed with
  | nil => rfl
  | cons parser others ih =>
    rw [List.map_cons, firstOfAfter, firstOfAfter, Outcome.verdict_orElse, Outcome.verdict_orElse,
      verdict_map]
    cases (parser input).verdict with
    | accept | fault => rfl
    | reject error => exact ih _

/-- A pair is decided by its second parser where the first accepts, and else by the first. -/
theorem verdict_seq2 (first : Parser α) (second : Parser β) (input : Input) :
    (seq2 first second input).verdict =
      match (first input).verdict with
      | .accept value rest => (second rest).verdict.map fun other => (value, other)
      | .reject error => .reject error
      | .fault fault => .fault fault := by
  rw [seq2, Outcome.verdict_andThen]
  cases (first input).verdict with
  | accept value rest => exact verdict_map ..
  | reject | fault => rfl

variable {first : Parser α} {value : α}

/-- After an accepted beginning, the branches that go on from it are tried with the same errors as
if the beginning had been run once. -/
theorem verdict_firstOfAfter_seq2_of_accept (accepted : (first input).verdict = .accept value rest)
    (same : rest.surroundings.errorPolicy = input.surroundings.errorPolicy) (kept : ParseError)
    (branches : List (Parser β)) :
    (firstOfAfter (some kept) (branches.map (seq2 first)) input).verdict =
      (firstOfAfter (some kept) branches rest).verdict.map fun other => (value, other) := by
  induction branches generalizing kept with
  | nil => rfl
  | cons branch others ih =>
    rw [List.map_cons, firstOfAfter, firstOfAfter, Outcome.verdict_orElse, Outcome.verdict_orElse,
      verdict_seq2, accepted]
    dsimp only
    cases (branch rest).verdict with
    | accept | fault => rfl
    | reject error =>
      simp only [Verdict.map, same]
      exact ih _

/-- A beginning that rejects makes all branches reject with its error. -/
theorem verdict_firstOfAfter_seq2_of_reject {error : ParseError}
    (rejected : (first input).verdict = .reject error) (branches : List (Parser β)) :
    (firstOfAfter (some error) (branches.map (seq2 first)) input).verdict = .reject error := by
  induction branches with
  | nil => rfl
  | cons branch others ih =>
    rw [List.map_cons, firstOfAfter, Outcome.verdict_orElse, verdict_seq2, rejected]
    simp only [ErrorPolicy.pick_self]
    exact ih

/-- What all branches of a choice begin with may be run once, in front of the choice, if it keeps
the policy. -/
theorem verdict_firstOf_seq2 (input : Input)
    (keeps : ∀ {value rest}, (first input).verdict = .accept value rest →
      rest.surroundings.errorPolicy = input.surroundings.errorPolicy)
    (branch : Parser β) (others : List (Parser β)) :
    (firstOf ((branch :: others).map (seq2 first)) input).verdict =
      (seq2 first (firstOf (branch :: others)) input).verdict := by
  rw [List.map_cons, firstOf, firstOfAfter, Outcome.verdict_orElse, verdict_seq2, verdict_seq2]
  cases decided : (first input).verdict with
  | fault problem => rfl
  | reject error =>
    simp only [ErrorPolicy.pick_none]
    exact verdict_firstOfAfter_seq2_of_reject decided others
  | accept value rest =>
    simp only [firstOf, firstOfAfter, Outcome.verdict_orElse]
    cases (branch rest).verdict with
    | accept | fault => rfl
    | reject error =>
      simp only [Verdict.map, ErrorPolicy.pick_none]
      exact verdict_firstOfAfter_seq2_of_accept decided (keeps decided) error others

end Parser

namespace Grammar

/-- What all branches of a choice of terms begin with may be run once, in front of the choice: on
every input and under either policy, both accept the same value and leave the same rest, reject with
the same error, or stop with the same fault. -/
theorem parser_verdict_of_left_factoring (grammar : Grammar) (first branch : Term)
    (others : List Term) (input : Input) :
    (grammar.parser (.firstOf ((branch :: others).map (.seq2 first))) input).verdict =
      (grammar.parser (.seq2 first (.firstOf (branch :: others))) input).verdict := by
  let rule := grammar.ruleParser (grammar.depthOn input)
  let pair := fun values : Host × Host => Host.pair values.1 values.2
  let begun := Parser.seq2 (first.parser rule) (β := Host)
  have keeps {value : Host} {rest : Input}
      (accepted : (first.parser rule input).verdict = .accept value rest) :
      rest.surroundings.errorPolicy = input.surroundings.errorPolicy :=
    congrArg Surroundings.errorPolicy (term_accept_ahead accepted).surroundings_eq
  have branches : ((branch :: others).map (.seq2 first)).map (Term.parser rule) =
      (((branch :: others).map (Term.parser rule)).map begun).map (Parser.map pair) := by
    simp only [List.map_map]
    rfl
  change (Parser.firstOf (Term.parsers rule _) input).verdict =
    (Parser.map pair (begun (.firstOf (Term.parsers rule _))) input).verdict
  rw [Term.parsers_eq_map, Term.parsers_eq_map, branches, Parser.verdict_firstOf_map,
    Parser.verdict_map, List.map_cons]
  rw [Parser.verdict_firstOf_seq2 input keeps]

end Grammar

end GrammarKit
