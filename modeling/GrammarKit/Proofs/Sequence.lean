import GrammarKit.Proofs.Term
import GrammarKit.Proofs.Verdict
/-!
# Parsers in order

There are several ways to run parsers one after the other: any number of them, two, three, one of
them so many times, or all of them for the value of one. All are the same operation, records
included (`Parser.sequencing_forms_agree`). Going on after an accepted value is associative, and a
sequence splits wherever its list of parsers does (`Parser.seq_append`). The forms for parsers of
different types are compared with the sequence through whatever brings their values to a common
type.
-/

namespace GrammarKit

variable {α β γ τ : Type}

namespace Outcome

/-- Records in front of records are records in front. -/
theorem after_after (records records' : List Record) (outcome : Outcome α) :
    (outcome.after records').after records = outcome.after (records ++ records') := by
  rw [after, after, after, List.append_assoc]

/-- Going on keeps the records in front. -/
theorem andThen_after (records : List Record) (outcome : Outcome α)
    (next : α → Input → Outcome β) :
    (outcome.after records).andThen next = (outcome.andThen next).after records := by
  obtain ⟨written, verdict⟩ := outcome
  cases verdict with
  | accept value rest => exact (after_after records written (next value rest)).symm
  | reject | fault => rfl

/-- Going on twice is going on with what goes on. -/
theorem andThen_assoc (outcome : Outcome α) (next : α → Input → Outcome β)
    (last : β → Input → Outcome γ) :
    (outcome.andThen next).andThen last =
      outcome.andThen fun value rest => (next value rest).andThen last := by
  obtain ⟨written, verdict⟩ := outcome
  cases verdict with
  | accept value rest => exact andThen_after written (next value rest) last
  | reject | fault => rfl

/-- Going on by accepting the same value changes nothing. -/
theorem andThen_accept (outcome : Outcome α) :
    (outcome.andThen fun value rest => { verdict := .accept value rest }) = outcome := by
  obtain ⟨written, verdict⟩ := outcome
  cases verdict with
  | accept => simp [andThen, after]
  | reject | fault => rfl

end Outcome

namespace Parser

/-- Going on after an image is going on with the image of the value. -/
theorem andThen_map (f : α → β) (parser : Parser α) (next : β → Input → Outcome γ) (input : Input) :
    (map f parser input).andThen next = (parser input).andThen fun value => next (f value) := by
  rw [map, Outcome.andThen_assoc]
  rfl

/-- The image of an image is that under both functions. -/
theorem map_map (g : β → γ) (f : α → β) (parser : Parser α) :
    map g (map f parser) = map (fun value => g (f value)) parser :=
  funext fun input => andThen_map f parser _ input

/-- Every value is its own image. -/
theorem map_self (parser : Parser α) : map (fun value => value) parser = parser :=
  funext fun input => Outcome.andThen_accept (parser input)

/-- The image of what goes on is going on with the image. -/
theorem map_andThen (g : β → γ) (parser : Parser α) (next : α → Parser β) (input : Input) :
    map g (fun input => (parser input).andThen next) input =
      (parser input).andThen fun value => map g (next value) :=
  Outcome.andThen_assoc ..

/-! ## Sequences of any length -/

/-- A sequence of parsers and then others is the one sequence and then the other, the values put
together. -/
theorem seq_append (parsers others : List (Parser α)) (input : Input) :
    seq (parsers ++ others) input =
      (seq parsers input).andThen fun values => map (values ++ ·) (seq others) := by
  induction parsers generalizing input with
  | nil =>
    have same : map ([] ++ ·) (seq others) = seq others := map_self (seq others)
    change seq others input = (map ([] ++ ·) (seq others) input).after []
    rw [same]
    rfl
  | cons first parsers ih =>
    rw [List.cons_append, seq, seq, Outcome.andThen_assoc]
    refine congrArg (first input).andThen (funext fun value => funext fun rest => ?_)
    have tail : seq (parsers ++ others) =
        fun rest => (seq parsers rest).andThen fun values => map (values ++ ·) (seq others) :=
      funext ih
    rw [andThen_map, tail, map_andThen]
    refine congrArg (seq parsers rest).andThen (funext fun values => ?_)
    exact map_map ..

/-- A parser so many times is the sequence of as many copies of it. -/
theorem iterate_eq_seq (parser : Parser α) (count : Nat) :
    iterate parser count = seq (List.replicate count parser) := by
  induction count with
  | zero => rfl
  | succ count ih =>
    rw [List.replicate_succ, seq, iterate, ih]

/-- A sequence that accepts gives as many values as there are parsers. -/
theorem length_of_seq {parsers : List (Parser α)} {input rest : Input} {values : List α}
    (accepted : (seq parsers input).verdict = .accept values rest) :
    values.length = parsers.length := by
  induction parsers generalizing input rest values with
  | nil =>
    obtain ⟨rfl, -⟩ := Verdict.accept.inj accepted
    rfl
  | cons first parsers ih =>
    rw [seq, Outcome.verdict_andThen] at accepted
    cases decided : (first input).verdict with
    | accept value middle =>
      simp only [decided, verdict_map] at accepted
      cases later : (seq parsers middle).verdict with
      | accept others last =>
        rw [later] at accepted
        obtain ⟨rfl, -⟩ := Verdict.accept.inj accepted
        rw [List.length_cons, List.length_cons, ih later]
      | reject | fault =>
        rw [later] at accepted
        cases accepted
    | reject | fault =>
      simp only [decided] at accepted
      cases accepted

/-! ## Sequences of two and three -/

/-- A sequence that starts with an image goes on with the image of the value. -/
theorem seq_cons_map (f : α → τ) (first : Parser α) (others : List (Parser τ)) (input : Input) :
    seq (map f first :: others) input =
      (first input).andThen fun value => map (f value :: ·) (seq others) :=
  andThen_map f first _ input

/-- A sequence of one parser gives a list of one value. -/
theorem seq_singleton (parser : Parser α) : seq [parser] = map (fun value => [value]) parser := rfl

/-- Two parsers in order are the sequence of both. -/
theorem map_seq2_eq_seq (f : α → τ) (g : β → τ) (first : Parser α) (second : Parser β) :
    map (fun values => [f values.1, g values.2]) (seq2 first second) =
      seq [map f first, map g second] := by
  funext input
  rw [seq_cons_map, seq_singleton]
  unfold seq2
  rw [map_andThen]
  simp only [map_map]

/-- Three parsers in order are the sequence of all three. -/
theorem map_seq3_eq_seq (f : α → τ) (g : β → τ) (h : γ → τ) (first : Parser α)
    (second : Parser β) (third : Parser γ) :
    map (fun values => [f values.1, g values.2.1, h values.2.2]) (seq3 first second third) =
      seq [map f first, map g second, map h third] := by
  funext input
  have split := seq_append [map f first, map g second] [map h third] input
  rw [List.cons_append, List.cons_append, List.nil_append] at split
  rw [split, ← map_seq2_eq_seq, andThen_map, seq_singleton]
  unfold seq3
  rw [map_andThen]
  simp only [map_map, List.cons_append, List.nil_append]

/-! ## Sequences of which one value counts -/

/-- Functions that agree on the accepted value have the same image. -/
theorem map_congr {f g : α → β} {parser : Parser α} {input : Input}
    (same : ∀ value rest, (parser input).verdict = .accept value rest → f value = g value) :
    map f parser input = map g parser input := by
  unfold map
  generalize parser input = outcome at same ⊢
  obtain ⟨records, verdict⟩ := outcome
  cases verdict with
  | accept value rest => simp only [Outcome.andThen, same value rest rfl]
  | reject | fault => rfl

/-- The first of two parsers in order gives the first value of the sequence. -/
theorem map_left_eq_seq (f : α → τ) (g : β → τ) (first : Parser α) (second : Parser β) :
    map (fun value => some (f value)) (left first second) =
      map (·[0]?) (seq [map f first, map g second]) := by
  rw [left, map_map, ← map_seq2_eq_seq, map_map]
  rfl

/-- The second of two parsers in order gives the second value of the sequence. -/
theorem map_right_eq_seq (f : α → τ) (g : β → τ) (first : Parser α) (second : Parser β) :
    map (fun value => some (g value)) (right first second) =
      map (·[1]?) (seq [map f first, map g second]) := by
  rw [right, map_map, ← map_seq2_eq_seq, map_map]
  rfl

/-- One of several parsers in order gives its value in the sequence, which is there. -/
theorem map_nthOf_eq_seq [Inhabited α] {index : Nat} {parsers : List (Parser α)}
    (inside : index < parsers.length) :
    map some (nthOf index parsers) = map (·[index]?) (seq parsers) := by
  funext input
  rw [nthOf, map_map]
  refine map_congr fun values rest accepted => ?_
  have there : index < values.length := by rwa [length_of_seq accepted]
  rw [List.getD_eq_getElem?_getD, List.getElem?_eq_getElem there, Option.getD_some]

/-- A term for one of several values in order has no defect only if the value is there. -/
theorem lt_length_of_defect?_eq_none {index : Int} {terms : List Term}
    (sound : (Term.nthOf index terms).defect? = none) : index.toNat < terms.length := by
  rw [Term.defect?, Option.or_eq_none_iff] at sound
  by_cases outside : index < 0 ∨ (terms.length : Int) ≤ index
  · exact absurd sound.2 (by simp [outside])
  · omega

/-- All ways to run parsers in order are one operation, in values, rest, error and records. Parsers
and then others are the one sequence and then the other on its rest, with the values put together. A
parser so many times is the sequence of as many copies. Two and three parsers of any types are their
sequence once their values are brought to a common type, and the first or second of two gives just
that value of it. A sequence that accepts gives as many values as there are parsers, so the value
that counts of several is always there: where the index is one of the list, and so for every term
without a defect. -/
theorem sequencing_forms_agree (f : α → τ) (g : β → τ) (h : γ → τ) (first : Parser α)
    (second : Parser β) (third : Parser γ) (parser : Parser τ) (parsers others : List (Parser τ))
    (count : Nat) (input : Input) :
    (seq (parsers ++ others) input =
        (seq parsers input).andThen fun values => map (values ++ ·) (seq others)) ∧
      iterate parser count input = seq (List.replicate count parser) input ∧
      map (fun values => [f values.1, g values.2]) (seq2 first second) input =
        seq [map f first, map g second] input ∧
      map (fun values => [f values.1, g values.2.1, h values.2.2]) (seq3 first second third) input =
        seq [map f first, map g second, map h third] input ∧
      map (fun value => some (f value)) (left first second) input =
        map (·[0]?) (seq [map f first, map g second]) input ∧
      map (fun value => some (g value)) (right first second) input =
        map (·[1]?) (seq [map f first, map g second]) input ∧
      (∀ values rest, (seq parsers input).verdict = .accept values rest →
        values.length = parsers.length) ∧
      (∀ [Inhabited τ], ∀ index < parsers.length,
        map some (nthOf index parsers) input = map (·[index]?) (seq parsers) input) ∧
      ∀ index terms rule, (Term.nthOf index terms).defect? = none →
        map some ((Term.nthOf index terms).parser rule) input =
          map (·[index.toNat]?) (seq (Term.parsers rule terms)) input := by
  refine ⟨seq_append parsers others input, ?_, ?_, ?_, ?_, ?_, ?_, ?_, ?_⟩
  · rw [iterate_eq_seq]
  · rw [map_seq2_eq_seq]
  · rw [map_seq3_eq_seq]
  · rw [map_left_eq_seq f g]
  · rw [map_right_eq_seq f g]
  · exact fun values rest accepted => length_of_seq accepted
  · intro _ index inside
    rw [map_nthOf_eq_seq inside]
  · intro index terms rule sound
    have inside : index.toNat < (Term.parsers rule terms).length := by
      rw [Term.parsers_eq_map, List.length_map]
      exact lt_length_of_defect?_eq_none sound
    rw [Term.parser, map_nthOf_eq_seq inside]

/-- A digit, a letter and a digit in order: the letter is the second value. -/
theorem sequencing_forms_agree_digitLetter :
    let input := Input.ofSymbols ['7', 'k', '2', '!'] {}
    let parsers := [map Host.int digitValue, map Host.symbol lowerLetter, map Host.int digitValue]
    (seq parsers input).verdict = .accept [.int 7, .symbol 107, .int 2] (input.advance 3) ∧
      (map (fun values => [Host.int values.1, .symbol values.2.1, .int values.2.2])
        (seq3 digitValue lowerLetter digitValue) input).verdict =
          .accept [.int 7, .symbol 107, .int 2] (input.advance 3) ∧
      1 < parsers.length ∧
      (map some (nthOf 1 parsers) input).verdict =
        .accept (some (.symbol 107)) (input.advance 3) ∧
      (Term.nthOf 1 [.digitValue, .lowerLetter, .digitValue]).defect? = none ∧
      (map some ((Term.nthOf 1 [.digitValue, .lowerLetter, .digitValue]).parser
        fun _ => .fail "" []) input).verdict = .accept (some (.symbol 107)) (input.advance 3) := by
  intro input parsers
  have accepted : (seq parsers input).verdict =
      .accept [.int 7, .symbol 107, .int 2] (input.advance 3) := rfl
  obtain ⟨-, -, -, three, -, -, -, nth, term⟩ := sequencing_forms_agree Host.int Host.symbol
    Host.int digitValue lowerLetter digitValue (map Host.int digitValue) parsers [] 0 input
  have inside : 1 < parsers.length := by decide
  have sound : (Term.nthOf 1 [.digitValue, .lowerLetter, .digitValue]).defect? = none := rfl
  refine ⟨accepted, ?_, inside, ?_, sound, ?_⟩
  · rw [three]
    exact accepted
  · rw [nth 1 inside, verdict_map, accepted]
    rfl
  · rw [term 1 _ _ sound]
    rfl

end Parser

end GrammarKit
