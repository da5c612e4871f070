import GrammarKit.Proofs.Collecting
/-!
# How often a repetition runs

A repetition goes on for as long as its parser accepts and moves, and it counts its runs only to
tell how many they were. What ends it is the input: of a parser that only moves forward, every run
but the last uses up a symbol, so there is at most one run more than there are symbols
(`Parser.foldRuns_bounded_by_remaining`). Any bound with room for that many runs gives the same
result, so the bound that comes with a repetition is never what ends it.
-/

namespace GrammarKit.Parser

open Input (Ahead)

variable {α σ : Type} {parser : Parser α} {input last : Input} {values : List α}

/-- Runs one after another of which each uses up a symbol, the values that they give, and the input
that the last of them leaves. -/
inductive Moves (parser : Parser α) : Input → List α → Input → Prop where
  /-- No run leaves an input as it is. -/
  | none (input : Input) : Moves parser input [] input
  /-- A run uses up a symbol, and the others start from what it leaves. -/
  | more {input middle last : Input} {value : α} {values : List α}
      (accepted : (parser input).verdict = .accept value middle)
      (fewer : middle.remaining < input.remaining) (later : Moves parser middle values last) :
      Moves parser input (value :: values) last

namespace Moves

/-- Runs that move use up a symbol each. -/
theorem length_add_remaining_le (moves : parser.Moves input values last) :
    values.length + last.remaining ≤ input.remaining := by
  induction moves with
  | none input => simp
  | more accepted fewer later ih =>
    rw [List.length_cons]
    omega

/-- Bounded runs that move go on from where they arrive, with what is left of the bound. -/
theorem verdict_foldUpTo (moves : parser.Moves input values last) (forward : parser.Forward)
    (f : σ → α → σ) (state : σ) (bound : Nat) (records : List Record) (runs : Nat) :
    ∃ records', (parser.foldUpTo f (values.length + bound) records state runs input).verdict =
      (parser.foldUpTo f bound records' (values.foldl f state) (runs + values.length)
        last).verdict := by
  induction moves generalizing state records runs with
  | none input => exact ⟨records, by simp⟩
  | @more input middle last value values accepted fewer later ih =>
    have ahead : Ahead input middle := forward ⟨value, accepted⟩
    have moved : middle.cursor ≠ input.cursor := by
      have trade := ahead.cursor_add_remaining
      omega
    obtain ⟨records', onwards⟩ := ih (f state value) (records ++ (parser input).records) (runs + 1)
    refine ⟨records', ?_⟩
    rw [List.length_cons, Nat.add_right_comm, verdict_foldUpTo_succ, accepted]
    simp only [moved, ↓reduceIte]
    rw [onwards, List.foldl_cons, Nat.add_right_comm, Nat.add_assoc]

/-- Under a bound with room for every symbol left, runs that have moved to where the parser rejects
or accepts in place are all the runs, except that the run in place is one more. -/
theorem verdict_foldUpTo_of_ends {moving : List α} (moves : parser.Moves input moving last)
    (ends : parser.Rejects last ∧ values = moving ∨
      ∃ value, (parser last).verdict = .accept value last ∧ values = moving ++ [value])
    (forward : parser.Forward) (f : σ → α → σ) (state : σ) {bound : Nat}
    (enough : input.remaining < bound) (records : List Record) :
    (parser.foldUpTo f bound records state 0 input).verdict =
      .accept (values.foldl f state, values.length) last := by
  have room := moves.length_add_remaining_le
  obtain ⟨left, rfl⟩ : ∃ left, bound = moving.length + (left + 1) :=
    ⟨bound - moving.length - 1, by omega⟩
  obtain ⟨records', onwards⟩ := moves.verdict_foldUpTo forward f state (left + 1) records 0
  rw [onwards, verdict_foldUpTo_succ]
  obtain ⟨⟨error, rejected⟩, rfl⟩ | ⟨value, accepted, rfl⟩ := ends
  · rw [rejected, Nat.zero_add]
  · simp [accepted]

end Moves

/-- From every input, runs move up to where the parser rejects or accepts in place. -/
theorem exists_moves (forward : parser.Forward)
    (sound : ∀ place fault, (parser place).verdict ≠ .fault fault) (input : Input) :
    ∃ moving last, parser.Moves input moving last ∧
      (parser.Rejects last ∨ parser.Accepts last last) := by
  -- A run that moves leaves fewer symbols, so the induction is on their number.
  induction left : input.remaining using Nat.strong_induction_on generalizing input with
  | _ count ih =>
    subst left
    cases Answers.of_forward forward (sound input) with
    | reject rejected => exact ⟨[], input, .none input, .inl ⟨_, rejected⟩⟩
    | @accept value middle accepted moves =>
      obtain ⟨rfl, -⟩ | fewer := moves
      · exact ⟨[], middle, .none middle, .inr ⟨value, accepted⟩⟩
      · obtain ⟨moving, last, later, ends⟩ := ih _ fewer middle rfl
        exact ⟨value :: moving, last, .more accepted fewer later, ends⟩

/-- A parser that only moves forward and always comes to a verdict is repeated at most once more
than there are symbols left. Every run but perhaps the last uses up a symbol, and what is left is an
input that the parser rejects or accepts in place. A bound with room for these runs makes no
difference. -/
theorem foldRuns_bounded_by_remaining (forward : parser.Forward)
    (sound : ∀ place fault, (parser place).verdict ≠ .fault fault) (f : σ → α → σ) (state : σ)
    (input : Input) :
    ∃ moving values last, parser.Moves input moving last ∧
      (parser.Rejects last ∧ values = moving ∨
        ∃ value, (parser last).verdict = .accept value last ∧ values = moving ++ [value]) ∧
      values.length ≤ input.remaining + 1 ∧
      (parser.foldRuns f state input).verdict =
        .accept (values.foldl f state, values.length) last ∧
      ∀ bound > input.remaining, ∀ records,
        (parser.foldUpTo f bound records state 0 input).verdict =
          .accept (values.foldl f state, values.length) last := by
  obtain ⟨moving, last, moves, stops⟩ := exists_moves forward sound input
  have room := moves.length_add_remaining_le
  obtain ⟨values, ends, counted⟩ : ∃ values,
      (parser.Rejects last ∧ values = moving ∨
        ∃ value, (parser last).verdict = .accept value last ∧ values = moving ++ [value]) ∧
      values.length ≤ moving.length + 1 := by
    obtain rejects | ⟨value, accepted⟩ := stops
    · exact ⟨moving, .inl ⟨rejects, rfl⟩, Nat.le_succ _⟩
    · exact ⟨moving ++ [value], .inr ⟨value, accepted, rfl⟩, by simp⟩
  have bounded (bound : Nat) (enough : bound > input.remaining) (records : List Record) :=
    moves.verdict_foldUpTo_of_ends ends forward f state enough records
  exact ⟨moving, values, last, moves, ends, by omega, bounded _ (Nat.lt_succ_self _) [], bounded⟩

/-- A letter that may be missing is found once and then missed once, so there is one run more than
there are symbols. -/
theorem foldRuns_bounded_by_remaining_letterOrNot :
    letterOrNot.Forward ∧ (∀ place fault, (letterOrNot place).verdict ≠ .fault fault) ∧
    ∃ input last, input = .ofSymbols ['a'] {} ∧ input.remaining = 1 ∧
      (letterOrNot.foldRuns (fun runs _ => runs + 1) 0 input).verdict = .accept (2, 2) last ∧
      letterOrNot.Accepts last last := by
  have forward : letterOrNot.Forward := Grammar.forward_parser {} (.optional (.lit 97) .unit)
  have sound : ∀ place fault, (letterOrNot place).verdict ≠ .fault fault := by
    intro place fault stopped
    have letter : (map Host.symbol (lit 97)).Answers place false :=
      (Answers.oneChar.acceptWhen _ _ _).map _
    have answers : letterOrNot.Answers place true := letter.optional .unit
    rcases answers.decided with ⟨value, rest, accepted⟩ | ⟨error, rejected⟩
    · exact nomatch accepted.symm.trans stopped
    · exact nomatch rejected.symm.trans stopped
  obtain ⟨moving, values, last, -, ends, -, counted, -⟩ := foldRuns_bounded_by_remaining forward
    sound (fun runs _ => runs + 1) 0 (.ofSymbols ['a'] {})
  have same : Verdict.accept (2, 2) (Input.mk _ _ _ _ _) =
      .accept (values.foldl (fun runs _ => runs + 1) 0, values.length) last := counted
  obtain ⟨-, rfl⟩ := Verdict.accept.inj same
  refine ⟨forward, sound, _, _, rfl, rfl, rfl, ?_⟩
  obtain ⟨⟨error, rejected⟩, -⟩ | ⟨value, accepted, -⟩ := ends
  · exact nomatch rejected
  · exact ⟨value, accepted⟩

end GrammarKit.Parser
