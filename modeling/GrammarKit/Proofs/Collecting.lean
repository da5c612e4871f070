import GrammarKit.Grammar.Action
import GrammarKit.Proofs.Repetition
import GrammarKit.Proofs.Termination
/-!
# One sequence behind all repetitions

All repetitions of a parser make the same runs, and what each of them gives is read off the values
that these runs leave. So collecting is enough: a fold gives the fold of what is collected
(`Parser.verdict_foldl_eq_many`), and as many runs as there are values give just these
(`Parser.verdict_iterate_of_many`), whatever the parser does. A parser that only moves forward and
always comes to a verdict is collected from every input, and what it leaves is an input that it
rejects or accepts in place.
-/

namespace GrammarKit

open Input (Ahead)

variable {α β γ σ : Type}

/-- The image of an image is the image under both. -/
theorem Verdict.map_map (g : β → γ) (f : α → β) (verdict : Verdict α) :
    (verdict.map f).map g = verdict.map fun value => g (f value) := by
  cases verdict <;> rfl

namespace Parser

variable {parser : Parser α} {input rest last : Input}

/-! ## Folds -/

/-- Bounded runs are folded to the fold of what they collect under the same bound. -/
theorem verdict_foldUpTo_eq_push (parser : Parser α) (f : σ → α → σ) (state : σ) (bound : Nat)
    (records records' : List Record) (values : Array α) (runs : Nat) (input : Input) :
    (parser.foldUpTo f bound records (values.foldl f state) runs input).verdict =
      (parser.foldUpTo Array.push bound records' values runs input).verdict.map fun collected =>
        (collected.1.foldl f state, collected.2) := by
  induction bound generalizing records records' values runs input with
  | zero => rfl
  | succ bound ih =>
    rw [verdict_foldUpTo_succ, verdict_foldUpTo_succ]
    cases (parser input).verdict with
    | accept value rest =>
      have folded : f (values.foldl f state) value = (values.push value).foldl f state := by simp
      by_cases same : rest.cursor = input.cursor
      · simp only [same, ↓reduceIte, Verdict.map, folded]
      · simp only [same, ↓reduceIte, folded]
        exact ih ..
    | reject | fault => rfl

/-- A fold that goes on from folded values gives the fold of what is collected after them. -/
theorem verdict_foldl_eq_push (parser : Parser α) (state : σ) (f : σ → α → σ) (values : Array α)
    (input : Input) :
    (parser.foldl (values.foldl f state) f input).verdict =
      (parser.foldl values Array.push input).verdict.map fun values => values.foldl f state := by
  rw [foldl, verdict_map, foldRuns, foldl, verdict_map, foldRuns, Verdict.map_map,
    verdict_foldUpTo_eq_push parser f state _ [] [] values, Verdict.map_map]

/-- A fold of zero or more runs gives the fold of what is collected. -/
theorem verdict_foldl_eq_many (parser : Parser α) (state : σ) (f : σ → α → σ) (input : Input) :
    (parser.foldl state f input).verdict =
      (parser.many input).verdict.map fun values => values.foldl f state :=
  verdict_foldl_eq_push parser state f #[] input

/-- A fold of one or more runs gives the fold of what is collected. -/
theorem verdict_foldl1_eq_many1 (parser : Parser α) (state : σ) (f : σ → α → σ) (input : Input) :
    (parser.foldl1 state f input).verdict =
      (parser.many1 input).verdict.map fun values => values.foldl f state := by
  rw [foldl1, many1, Outcome.verdict_andThen, Outcome.verdict_andThen]
  cases (parser input).verdict with
  | accept value rest => exact verdict_foldl_eq_push parser state f #[value] rest
  | reject | fault => rfl

/-- Zero or more runs without their values leave what is left after collecting. -/
theorem verdict_any_eq_many (parser : Parser α) (input : Input) :
    (parser.any input).verdict = (parser.many input).verdict.map fun _ => () :=
  verdict_foldl_eq_many parser () (fun _ _ => ()) input

/-- One or more runs without their values leave what is left after collecting. -/
theorem verdict_any1_eq_many1 (parser : Parser α) (input : Input) :
    (parser.any1 input).verdict = (parser.many1 input).verdict.map fun _ => () :=
  verdict_foldl1_eq_many1 parser () (fun _ _ => ()) input

/-- A fold into the value of a first parser gives the fold of what is collected after it. -/
theorem verdict_foldlFrom_eq_many (parser : Parser α) (first : Parser σ) (f : σ → α → σ)
    (input : Input) :
    (parser.foldlFrom first f input).verdict =
      match (first input).verdict with
      | .accept start middle =>
        (parser.many middle).verdict.map fun values => values.foldl f start
      | .reject error => .reject error
      | .fault fault => .fault fault := by
  rw [foldlFrom, Outcome.verdict_andThen]
  cases (first input).verdict with
  | accept start middle => exact verdict_foldl_eq_many parser start f middle
  | reject | fault => rfl

/-! ## A number of runs -/

/-- A number of runs and then some more are their sum. -/
theorem verdict_iterate_add (parser : Parser α) (count more : Nat) (input : Input) :
    (parser.iterate (count + more) input).verdict =
      match (parser.iterate count input).verdict with
      | .accept values rest => (parser.iterate more rest).verdict.map (values ++ ·)
      | .reject error => .reject error
      | .fault fault => .fault fault := by
  induction count generalizing input with
  | zero =>
    rw [Nat.zero_add]
    change _ = (parser.iterate more input).verdict.map ([] ++ ·)
    cases (parser.iterate more input).verdict <;> rfl
  | succ count ih =>
    rw [Nat.add_right_comm, iterate, iterate, Outcome.verdict_andThen, Outcome.verdict_andThen]
    cases (parser input).verdict with
    | accept value rest =>
      simp only [verdict_map, ih]
      cases (parser.iterate count rest).verdict with
      | accept values rest => exact Verdict.map_map ..
      | reject | fault => rfl
    | reject | fault => rfl

/-- One run after a number of runs that leave an input it rejects is one too many. -/
theorem verdict_iterate_succ_of_reject {count : Nat} {values : List α} {error : ParseError}
    (accepted : (parser.iterate count input).verdict = .accept values rest)
    (rejected : (parser rest).verdict = .reject error) :
    (parser.iterate (count + 1) input).verdict = .reject error := by
  rw [verdict_iterate_add, accepted]
  simp only [iterate, Outcome.verdict_andThen, rejected, Verdict.map]

/-- Bounded runs that are collected after some values are made one by one, as many as there are
values more. -/
theorem exists_iterate_of_foldUpTo {bound : Nat} {records : List Record} {values : Array α}
    {runs : Nat} {collected : Array α × Nat}
    (accepted : (parser.foldUpTo Array.push bound records values runs input).verdict =
      .accept collected last) :
    ∃ more : List α, collected.1 = values ++ more ∧
      (parser.iterate more.length input).verdict = .accept more last := by
  induction bound generalizing records values runs input with
  | zero => cases accepted
  | succ bound ih =>
    rw [verdict_foldUpTo_succ] at accepted
    have once {value : α} {rest : Input} {more : List α}
        (decided : (parser input).verdict = .accept value rest)
        (later : (parser.iterate more.length rest).verdict = .accept more last) :
        (parser.iterate (value :: more).length input).verdict = .accept (value :: more) last := by
      simp only [List.length_cons, iterate, Outcome.verdict_andThen, decided, verdict_map, later,
        Verdict.map]
    cases decided : (parser input).verdict with
    | accept value rest =>
      simp only [decided] at accepted
      by_cases same : rest.cursor = input.cursor
      · simp only [same, ↓reduceIte, Verdict.accept.injEq] at accepted
        obtain ⟨rfl, rfl⟩ := accepted
        exact ⟨[value], by simp, once decided rfl⟩
      · simp only [same, ↓reduceIte] at accepted
        obtain ⟨more, made, later⟩ := ih accepted
        exact ⟨value :: more, by simp [made], once decided later⟩
    | reject error =>
      simp only [decided, Verdict.accept.injEq] at accepted
      obtain ⟨rfl, rfl⟩ := accepted
      exact ⟨[], by simp, rfl⟩
    | fault fault => simp [decided] at accepted

/-- As many runs as there are values collected give these values and leave the same input. -/
theorem verdict_iterate_of_many {values : Array α}
    (accepted : (parser.many input).verdict = .accept values rest) :
    (parser.iterate values.size input).verdict = .accept values.toList rest := by
  rw [many, foldl, verdict_map, foldRuns] at accepted
  cases decided : (parser.foldUpTo Array.push (input.remaining + 1) [] #[] 0 input).verdict with
  | accept collected last =>
    rw [decided] at accepted
    obtain ⟨rfl, rfl⟩ := Verdict.accept.inj accepted
    obtain ⟨more, made, later⟩ := exists_iterate_of_foldUpTo decided
    have same : collected.1 = more.toArray := by simpa using made
    simpa [same] using later
  | reject | fault =>
    rw [decided] at accepted
    cases accepted

/-! ## Where collecting ends -/

/-- A parser that only moves forward and comes to a verdict answers. -/
theorem Answers.of_forward (forward : parser.Forward)
    (sound : ∀ fault, (parser input).verdict ≠ .fault fault) : parser.Answers input true := by
  cases decided : (parser input).verdict with
  | accept value rest =>
    have ahead : Ahead input rest := forward ⟨value, decided⟩
    by_cases same : rest.cursor = input.cursor
    · exact .accept decided (.inl ⟨ahead.eq_of_cursor_eq same, rfl⟩)
    · have trade := ahead.cursor_add_remaining
      have onwards := ahead.cursor_le
      exact .accept decided (.inr (by omega))
  | reject error => exact .reject decided
  | fault fault => exact absurd decided (sound fault)

/-- Where repeated runs end, one more run rejects or stays in place. -/
theorem EndsAt.rejects_or_idle (forward : parser.Forward) (ends : parser.EndsAt input last) :
    parser.Rejects last ∨ parser.Accepts last last := by
  induction ends with
  | rejected rejects => exact .inl rejects
  | idle accepts same =>
    obtain rfl := (forward accepts).eq_of_cursor_eq same
    exact .inr accepts
  | moved accepts different later ih => exact ih

/-- A parser that only moves forward and always comes to a verdict is collected from every input, up
to where it rejects or stays in place. -/
theorem exists_verdict_many (forward : parser.Forward)
    (sound : ∀ place fault, (parser place).verdict ≠ .fault fault) (input : Input) :
    ∃ values rest, (parser.many input).verdict = .accept values rest ∧
      (parser.Rejects rest ∨ parser.Accepts rest rest) := by
  have answers : parser.many.Answers input true :=
    Answers.foldl #[] Array.push (.of_forward forward (sound input))
      fun rest _ => .of_forward forward (sound rest)
  rcases answers.decided with ⟨values, rest, accepted⟩ | rejected
  · have ends := (accepts_foldl forward #[] Array.push).mp ⟨values, accepted⟩
    exact ⟨values, rest, accepted, ends.rejects_or_idle forward⟩
  · exact absurd rejected (rejects_foldl #[] Array.push)

/-- All repetitions and folds agree with what is collected. The folds give the fold of the collected
values and leave what collecting leaves, and so do as many runs as there are values; one run more
gives the error of the parser there, if it rejects. A parser that only moves forward and always
comes to a verdict is collected from every input, up to where it rejects or stays in place. -/
theorem repetitions_agree_with_many (parser : Parser α) (first : Parser σ) (state : σ)
    (f : σ → α → σ) (input : Input) :
    ((parser.foldl state f input).verdict =
        (parser.many input).verdict.map (fun values => values.foldl f state) ∧
      (parser.any input).verdict = (parser.many input).verdict.map (fun _ => ()) ∧
      (parser.foldl1 state f input).verdict =
        (parser.many1 input).verdict.map (fun values => values.foldl f state) ∧
      (parser.any1 input).verdict = (parser.many1 input).verdict.map (fun _ => ()) ∧
      (parser.foldlFrom first f input).verdict =
        match (first input).verdict with
        | .accept start middle =>
          (parser.many middle).verdict.map fun values => values.foldl f start
        | .reject error => .reject error
        | .fault fault => .fault fault) ∧
    (∀ values rest, (parser.many input).verdict = .accept values rest →
      (parser.iterate values.size input).verdict = .accept values.toList rest ∧
      ∀ error, (parser rest).verdict = .reject error →
        (parser.iterate (values.size + 1) input).verdict = .reject error) ∧
    (parser.Forward → (∀ place fault, (parser place).verdict ≠ .fault fault) →
      ∃ values rest, (parser.many input).verdict = .accept values rest ∧
        (parser.Rejects rest ∨ parser.Accepts rest rest)) := by
  refine ⟨⟨verdict_foldl_eq_many .., verdict_any_eq_many .., verdict_foldl1_eq_many1 ..,
    verdict_any1_eq_many1 .., verdict_foldlFrom_eq_many ..⟩, ?_, ?_⟩
  · intro values rest accepted
    have runs := verdict_iterate_of_many accepted
    exact ⟨runs, fun error rejected => verdict_iterate_succ_of_reject runs rejected⟩
  · exact fun forward sound => exists_verdict_many forward sound input

/-- A minus sign and the value of the digit after it. -/
def minusDigit : Parser Host := Grammar.parser {} (.right (.lit 45) .digitValue)

/-- Digits to subtract are collected, subtracted from a number and counted off, up to a letter. -/
theorem repetitions_agree_with_many_minusDigit :
    minusDigit.Forward ∧ (∀ place fault, (minusDigit place).verdict ≠ .fault fault) ∧
    ∃ input rest, input = .ofSymbols ['-', '3', '-', '2', 'x'] {} ∧
      (minusDigit.many input).verdict = .accept #[.int 3, .int 2] rest ∧
      (minusDigit.Rejects rest ∨ minusDigit.Accepts rest rest) ∧
      (minusDigit.foldl 7 (fun number digit => number - digit.asInt) input).verdict =
        .accept 2 rest ∧
      (minusDigit.iterate 2 input).verdict = .accept [.int 3, .int 2] rest ∧
      (minusDigit.iterate 3 input).verdict =
        .reject (rest.fail ErrorKind.literalExpected [.text "x", .text "-"]) := by
  have forward : minusDigit.Forward := Grammar.forward_parser {} (.right (.lit 45) .digitValue)
  have sound : ∀ place fault, (minusDigit place).verdict ≠ .fault fault := by
    intro place fault stopped
    have sign : (map Host.symbol (lit 45)).Answers place false :=
      (Answers.oneChar.acceptWhen _ _ _).map _
    have digit (rest : Input) : (map Host.int digitValue).Answers rest false :=
      (Answers.digit.map _).map _
    have answers : minusDigit.Answers place false :=
      (sign.seq2 (fun _ => digit place) fun rest _ => digit rest).map Prod.snd
    rcases answers.decided with ⟨value, rest, accepted⟩ | ⟨error, rejected⟩
    · exact nomatch accepted.symm.trans stopped
    · exact nomatch rejected.symm.trans stopped
  obtain ⟨⟨folded, -⟩, counted, collected⟩ := repetitions_agree_with_many minusDigit (.pure 7)
    (7 : Int64) (fun number digit => number - digit.asInt) (.ofSymbols ['-', '3', '-', '2', 'x'] {})
  obtain ⟨values, rest, accepted, ends⟩ := collected forward sound
  have same : Verdict.accept #[.int 3, .int 2] (Input.mk _ _ _ _ _) = .accept values rest :=
    accepted
  obtain ⟨rfl, rfl⟩ := Verdict.accept.inj same
  obtain ⟨runs, more⟩ := counted _ _ accepted
  exact ⟨forward, sound, _, _, rfl, accepted, ends, folded.trans (by rw [accepted]; rfl), runs,
    more _ rfl⟩

end Parser

end GrammarKit
