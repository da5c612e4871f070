import GrammarKit.Parser.Primitive
import GrammarKit.Proofs.Input
import GrammarKit.Proofs.Verdict
/-!
# Recognition, combinator by combinator

Apart from values and messages, a parser accepts an input, leaving another, or rejects it
(`Parser.Accepts`, `Parser.Rejects`), or it does neither. For each combinator this module says when
it accepts and when it rejects, in terms of its parsers. A repetition is read off the input at which
its runs end (`Parser.EndsAt`), provided its parser never moves back: then the bound on its runs is
not felt.
-/

namespace GrammarKit.Parser

open Input (Ahead)

variable {α β σ : Type} {parser : Parser α} {input rest last : Input}

/-- Whether a parser accepts an input and leaves another. -/
def Accepts (parser : Parser α) (input rest : Input) : Prop :=
  ∃ value, (parser input).verdict = .accept value rest

/-- Whether a parser rejects an input. -/
def Rejects (parser : Parser α) (input : Input) : Prop :=
  ∃ error, (parser input).verdict = .reject error

/-- Whether a parser leaves inputs ahead only. -/
def Forward (parser : Parser α) : Prop :=
  ∀ ⦃input rest⦄, parser.Accepts input rest → Ahead input rest

/-- A parser leaves at most one input. -/
theorem Accepts.unique {other : Input} (first : parser.Accepts input rest)
    (second : parser.Accepts input other) : rest = other := by
  obtain ⟨value, accepted⟩ := first
  obtain ⟨value', accepted'⟩ := second
  rw [accepted] at accepted'
  cases accepted'
  rfl

/-- A parser does not reject what it accepts. -/
theorem Accepts.not_rejects (accepts : parser.Accepts input rest) : ¬ parser.Rejects input := by
  obtain ⟨value, accepted⟩ := accepts
  rintro ⟨error, rejected⟩
  rw [accepted] at rejected
  cases rejected

/-- An accepting verdict leaves the input it holds. -/
theorem exists_accept_eq_iff {value : α} :
    (∃ other, Verdict.accept value input = .accept other rest) ↔ rest = input := by
  constructor
  · rintro ⟨other, same⟩
    cases same
    rfl
  · rintro rfl
    exact ⟨value, rfl⟩

/-- A parser that goes on after an accepted value accepts where both steps do. -/
theorem accepts_andThen {whole : Parser β} {next : α → Parser β}
    (shape : whole input = (parser input).andThen next) :
    whole.Accepts input rest ↔
      ∃ value middle, (parser input).verdict = .accept value middle ∧
        (next value).Accepts middle rest := by
  rw [Accepts, shape, Outcome.verdict_andThen]
  cases (parser input).verdict with
  | accept value middle => simp [and_assoc, Accepts]
  | reject | fault => simp

/-- A parser that goes on after an accepted value rejects where one of the steps does. -/
theorem rejects_andThen {whole : Parser β} {next : α → Parser β}
    (shape : whole input = (parser input).andThen next) :
    whole.Rejects input ↔
      parser.Rejects input ∨
        ∃ value middle, (parser input).verdict = .accept value middle ∧
          (next value).Rejects middle := by
  rw [Rejects, Rejects, shape, Outcome.verdict_andThen]
  cases (parser input).verdict with
  | accept value middle => simp [and_assoc, Rejects]
  | reject | fault => simp

/-! ## Parsers without parts -/

/-- A fixed value is accepted in place. -/
@[simp] theorem accepts_pure (value : α) : (pure value).Accepts input rest ↔ rest = input :=
  exists_accept_eq_iff

/-- A fixed value is never rejected. -/
@[simp] theorem rejects_pure (value : α) : ¬ (pure value).Rejects input := by
  simp [Rejects, pure]

/-- A failure accepts nothing. -/
@[simp] theorem accepts_fail (kind : String) (args : List Host) :
    ¬ (fail kind args : Parser α).Accepts input rest := by
  simp [Accepts, fail]

/-- A failure rejects everything. -/
@[simp] theorem rejects_fail (kind : String) (args : List Host) :
    (fail kind args : Parser α).Rejects input := by
  simp [Rejects, fail]

/-- Any symbol is accepted and moved past. -/
theorem accepts_oneChar :
    oneChar.Accepts input rest ↔
      ∃ symbol, input.peek? = some symbol ∧ rest = input.past symbol := by
  unfold Accepts oneChar
  cases input.peek? with
  | none => simp
  | some symbol => simp only [exists_accept_eq_iff, Option.some.injEq, exists_eq_left']

/-- Only the end of the source is no symbol. -/
theorem rejects_oneChar : oneChar.Rejects input ↔ input.peek? = none := by
  unfold Rejects oneChar
  cases input.peek? <;> simp

/-- A symbol that passes a test is accepted and moved past. -/
theorem accepts_symbolWhen (test : CodePoint → Bool) (kind : String) (args : List Host) :
    (acceptWhen oneChar test kind args).Accepts input rest ↔
      ∃ symbol, input.peek? = some symbol ∧ test (.ofChar symbol) = true ∧
        rest = input.past symbol := by
  unfold Accepts acceptWhen oneChar
  cases input.peek? with
  | none => simp [Outcome.verdict_andThen]
  | some symbol =>
    by_cases passed : test (.ofChar symbol) = true
    · simp only [Outcome.verdict_andThen, passed, ↓reduceIte, exists_accept_eq_iff,
        Option.some.injEq, exists_eq_left', true_and]
    · simp [Outcome.verdict_andThen, passed]

/-- The end of the source and symbols that fail a test are rejected. -/
theorem rejects_symbolWhen (test : CodePoint → Bool) (kind : String) (args : List Host) :
    (acceptWhen oneChar test kind args).Rejects input ↔
      ∀ symbol, input.peek? = some symbol → test (.ofChar symbol) = false := by
  unfold Rejects acceptWhen oneChar
  cases input.peek? with
  | none => simp [Outcome.verdict_andThen]
  | some symbol =>
    by_cases passed : test (.ofChar symbol) = true
    · simp [Outcome.verdict_andThen, passed]
    · simp [Outcome.verdict_andThen, passed]

/-- A text is accepted where it comes next, and moved past. -/
theorem accepts_litStringFrom (text : String) (expected : List Char) :
    (litStringFrom text expected).Accepts input rest ↔
      expected <+: input.rest ∧ rest = input.advance expected.length := by
  induction expected generalizing input with
  | nil => simp [litStringFrom]
  | cons wanted others ih =>
    unfold Accepts litStringFrom
    cases found : input.peek? with
    | none => simp [(Input.peek?_eq_none_iff input).mp found]
    | some symbol =>
      rw [Input.rest_eq_cons found, List.length_cons, Input.advance_succ found]
      by_cases same : symbol = wanted
      · subst same
        simp only [↓reduceIte, List.prefix_cons_inj]
        exact ih
      · simp [same, Ne.symm same]

/-- A text is rejected where it does not come next. -/
theorem rejects_litStringFrom (text : String) (expected : List Char) :
    (litStringFrom text expected).Rejects input ↔ ¬ expected <+: input.rest := by
  induction expected generalizing input with
  | nil => simp [litStringFrom]
  | cons wanted others ih =>
    unfold Rejects litStringFrom
    cases found : input.peek? with
    | none => simp [(Input.peek?_eq_none_iff input).mp found]
    | some symbol =>
      rw [Input.rest_eq_cons found]
      by_cases same : symbol = wanted
      · subst same
        simp only [↓reduceIte, List.prefix_cons_inj]
        exact ih
      · simp [same, Ne.symm same]

/-! ## Parsers that run others in order -/

/-- An image is accepted where its parser accepts. -/
@[simp] theorem accepts_map (f : α → β) :
    (map f parser).Accepts input rest ↔ parser.Accepts input rest := by
  rw [accepts_andThen rfl]
  constructor
  · rintro ⟨value, middle, accepted, same⟩
    obtain rfl := exists_accept_eq_iff.mp same
    exact ⟨value, accepted⟩
  · rintro ⟨value, accepted⟩
    exact ⟨value, rest, accepted, exists_accept_eq_iff.mpr rfl⟩

/-- An image is rejected where its parser rejects. -/
@[simp] theorem rejects_map (f : α → β) :
    (map f parser).Rejects input ↔ parser.Rejects input := by
  rw [rejects_andThen rfl]
  simp [Rejects]

/-- A sequence is accepted where its first parser accepts and the others accept what is left. -/
theorem accepts_seq_cons {others : List (Parser α)} :
    (seq (parser :: others)).Accepts input rest ↔
      ∃ middle, parser.Accepts input middle ∧ (seq others).Accepts middle rest := by
  rw [accepts_andThen rfl]
  simp only [accepts_map]
  rw [exists_comm]
  simp only [Accepts, exists_and_right]

/-- A sequence is rejected where its first parser rejects or the others reject what is left. -/
theorem rejects_seq_cons {others : List (Parser α)} :
    (seq (parser :: others)).Rejects input ↔
      parser.Rejects input ∨
        ∃ middle, parser.Accepts input middle ∧ (seq others).Rejects middle := by
  rw [rejects_andThen rfl]
  simp only [rejects_map]
  rw [exists_comm]
  simp only [Accepts, exists_and_right]

/-! ## Parsers that run others instead of each other -/

/-- The errors a choice has kept so far have no say in what it accepts. -/
theorem accepts_firstOfAfter {failed : Option ParseError} {parsers : List (Parser α)} :
    (firstOfAfter failed parsers).Accepts input rest ↔ (firstOf parsers).Accepts input rest := by
  induction parsers generalizing failed with
  | nil => simp [Accepts, firstOf, firstOfAfter]
  | cons first others ih =>
    simp only [Accepts, firstOf, firstOfAfter, Outcome.verdict_orElse] at ih ⊢
    cases (first input).verdict with
    | accept | fault => exact Iff.rfl
    | reject error => exact ih.trans ih.symm

/-- The errors a choice has kept so far have no say in whether it rejects. -/
theorem rejects_firstOfAfter {failed : Option ParseError} {parsers : List (Parser α)} :
    (firstOfAfter failed parsers).Rejects input ↔ (firstOf parsers).Rejects input := by
  induction parsers generalizing failed with
  | nil => simp [Rejects, firstOf, firstOfAfter]
  | cons first others ih =>
    simp only [Rejects, firstOf, firstOfAfter, Outcome.verdict_orElse] at ih ⊢
    cases (first input).verdict with
    | accept | fault => exact Iff.rfl
    | reject error => exact ih.trans ih.symm

/-- A choice is accepted where its first parser accepts, or rejects and the others accept. -/
theorem accepts_firstOf_cons {others : List (Parser α)} :
    (firstOf (parser :: others)).Accepts input rest ↔
      parser.Accepts input rest ∨ parser.Rejects input ∧ (firstOf others).Accepts input rest := by
  rw [Accepts, Accepts, Rejects, firstOf, firstOfAfter, Outcome.verdict_orElse]
  cases (parser input).verdict with
  | accept | fault => simp
  | reject error =>
    simp only [reduceCtorEq, exists_false, false_or, Verdict.reject.injEq, exists_eq', true_and]
    exact accepts_firstOfAfter

/-- A choice is rejected where all its parsers reject. -/
theorem rejects_firstOf_cons {others : List (Parser α)} :
    (firstOf (parser :: others)).Rejects input ↔
      parser.Rejects input ∧ (firstOf others).Rejects input := by
  rw [Rejects, Rejects, firstOf, firstOfAfter, Outcome.verdict_orElse]
  cases (parser input).verdict with
  | accept | fault => simp
  | reject error =>
    simp only [Verdict.reject.injEq, exists_eq', true_and]
    exact rejects_firstOfAfter

/-- The empty choice accepts nothing. -/
@[simp] theorem accepts_firstOf_nil : ¬ (firstOf ([] : List (Parser α))).Accepts input rest := by
  simp [Accepts, firstOf, firstOfAfter]

/-- The empty choice rejects everything. -/
@[simp] theorem rejects_firstOf_nil : (firstOf ([] : List (Parser α))).Rejects input := by
  simp [Rejects, firstOf, firstOfAfter]

/-- A default is accepted in place where the parser rejects. -/
theorem accepts_optional (default : α) :
    (parser.optional default).Accepts input rest ↔
      parser.Accepts input rest ∨ parser.Rejects input ∧ rest = input := by
  simp [optional, accepts_firstOf_cons]

/-- A parser with a default never rejects. -/
@[simp] theorem rejects_optional (default : α) : ¬ (parser.optional default).Rejects input := by
  simp [optional, rejects_firstOf_cons]

/-- Looking ahead accepts in place. -/
theorem accepts_lookAhead :
    parser.lookAhead.Accepts input rest ↔
      (∃ middle, parser.Accepts input middle) ∧ rest = input := by
  rw [accepts_andThen rfl]
  constructor
  · rintro ⟨value, middle, accepted, same⟩
    exact ⟨⟨middle, value, accepted⟩, exists_accept_eq_iff.mp same⟩
  · rintro ⟨⟨middle, value, accepted⟩, same⟩
    exact ⟨value, middle, accepted, exists_accept_eq_iff.mpr same⟩

/-- Looking ahead rejects where its parser does. -/
@[simp] theorem rejects_lookAhead : parser.lookAhead.Rejects input ↔ parser.Rejects input := by
  rw [rejects_andThen rfl]
  simp [Rejects]

/-- A negation accepts in place where its parser rejects. -/
theorem accepts_not [Shown α] :
    parser.not.Accepts input rest ↔ parser.Rejects input ∧ rest = input := by
  rw [Accepts, Rejects, verdict_not]
  cases (parser input).verdict with
  | accept | fault => simp
  | reject error => simp [eq_comm]

/-- A negation rejects where its parser accepts. -/
theorem rejects_not [Shown α] :
    parser.not.Rejects input ↔ ∃ middle, parser.Accepts input middle := by
  simp only [Rejects, Accepts, verdict_not]
  cases (parser input).verdict with
  | accept | fault => simp
  | reject error => simp

/-- A parser of the whole input is accepted where nothing is left. -/
theorem accepts_entireInput :
    parser.entireInput.Accepts input rest ↔ parser.Accepts input rest ∧ rest.rest = [] := by
  simp only [Accepts, entireInput, Outcome.verdict_andThen]
  cases (parser input).verdict with
  | accept value middle =>
    dsimp only
    cases found : middle.peek? with
    | none =>
      have nothing := (Input.peek?_eq_none_iff middle).mp found
      simp only [exists_accept_eq_iff]
      exact ⟨fun same => ⟨same, same ▸ nothing⟩, And.left⟩
    | some symbol =>
      simp only [reduceCtorEq, exists_false, exists_accept_eq_iff, false_iff]
      rintro ⟨rfl, nothing⟩
      rw [Input.rest_eq_cons found] at nothing
      cases nothing
  | reject | fault => simp

/-- A parser of the whole input is rejected where it rejects or something is left. -/
theorem rejects_entireInput :
    parser.entireInput.Rejects input ↔
      parser.Rejects input ∨ ∃ middle, parser.Accepts input middle ∧ middle.rest ≠ [] := by
  simp only [Rejects, Accepts, entireInput, Outcome.verdict_andThen]
  cases (parser input).verdict with
  | accept value middle =>
    dsimp only
    cases found : middle.peek? with
    | none =>
      have nothing := (Input.peek?_eq_none_iff middle).mp found
      simp [nothing]
    | some symbol =>
      have something := Input.rest_eq_cons found
      simp [something]
  | reject | fault => simp

/-! ## Repetition -/

/-- Where repeated runs of a parser end: before the first run that rejects, or after the first run
that does not move. -/
inductive EndsAt (parser : Parser α) : Input → Input → Prop where
  /-- The parser rejects. -/
  | rejected {input : Input} (rejects : parser.Rejects input) : EndsAt parser input input
  /-- The parser accepts in place. -/
  | idle {input rest : Input} (accepts : parser.Accepts input rest)
      (same : rest.cursor = input.cursor) : EndsAt parser input rest
  /-- The parser moves, and its runs end later. -/
  | moved {input rest last : Input} (accepts : parser.Accepts input rest)
      (different : rest.cursor ≠ input.cursor) (later : EndsAt parser rest last) :
      EndsAt parser input last

/-- A bounded repetition that accepts leaves the input where its runs end. -/
theorem EndsAt.of_foldUpTo {f : σ → α → σ} {bound : Nat} {records : List Record} {state : σ}
    {runs : Nat} {result : σ × Nat}
    (accepted : (parser.foldUpTo f bound records state runs input).verdict = .accept result last) :
    parser.EndsAt input last := by
  induction bound generalizing records state runs input with
  | zero => cases accepted
  | succ bound ih =>
    rw [verdict_foldUpTo_succ] at accepted
    cases decided : (parser input).verdict with
    | accept value rest =>
      simp only [decided] at accepted
      by_cases same : rest.cursor = input.cursor
      · simp only [same, ↓reduceIte, Verdict.accept.injEq] at accepted
        obtain ⟨-, rfl⟩ := accepted
        exact .idle ⟨value, decided⟩ same
      · simp only [same, ↓reduceIte] at accepted
        exact .moved ⟨value, decided⟩ same (ih accepted)
    | reject error =>
      simp only [decided, Verdict.accept.injEq] at accepted
      obtain ⟨-, rfl⟩ := accepted
      exact .rejected ⟨error, decided⟩
    | fault fault => simp [decided] at accepted

/-- A repetition with more runs allowed than symbols remain gets to where its runs end: every run
but the last uses up a symbol. -/
theorem EndsAt.foldUpTo (forward : parser.Forward) (ends : parser.EndsAt input last)
    (f : σ → α → σ) {bound : Nat} (enough : input.remaining < bound) (records : List Record)
    (state : σ) (runs : Nat) :
    ∃ result, (parser.foldUpTo f bound records state runs input).verdict =
      .accept result last := by
  induction ends generalizing bound records state runs with
  | rejected rejects =>
    obtain ⟨error, rejected⟩ := rejects
    obtain ⟨bound, rfl⟩ : ∃ fewer, bound = fewer + 1 := ⟨bound - 1, by omega⟩
    rw [verdict_foldUpTo_succ, rejected]
    exact ⟨_, rfl⟩
  | idle accepts same =>
    obtain ⟨value, accepted⟩ := accepts
    obtain ⟨bound, rfl⟩ : ∃ fewer, bound = fewer + 1 := ⟨bound - 1, by omega⟩
    rw [verdict_foldUpTo_succ, accepted]
    simp only [same, ↓reduceIte]
    exact ⟨_, rfl⟩
  | moved accepts different later ih =>
    have ahead := forward accepts
    have trade := ahead.cursor_add_remaining
    have onwards := ahead.cursor_le
    obtain ⟨value, accepted⟩ := accepts
    obtain ⟨bound, rfl⟩ : ∃ fewer, bound = fewer + 1 := ⟨bound - 1, by omega⟩
    rw [verdict_foldUpTo_succ, accepted]
    simp only [different, ↓reduceIte]
    exact ih (by omega) _ _ _

/-- A bounded repetition never rejects. -/
theorem foldUpTo_ne_reject (f : σ → α → σ) (bound : Nat) (records : List Record) (state : σ)
    (runs : Nat) (input : Input) (error : ParseError) :
    (parser.foldUpTo f bound records state runs input).verdict ≠ .reject error := by
  induction bound generalizing records state runs input with
  | zero => exact fun rejected => nomatch rejected
  | succ bound ih =>
    rw [verdict_foldUpTo_succ]
    cases (parser input).verdict with
    | accept value rest =>
      by_cases same : rest.cursor = input.cursor
      · simp [same]
      · simpa [same] using ih _ _ _ rest
    | reject | fault => simp

/-- A fold leaves the input where its runs end. -/
theorem accepts_foldl (forward : parser.Forward) (state : σ) (f : σ → α → σ) :
    (parser.foldl state f).Accepts input last ↔ parser.EndsAt input last := by
  rw [foldl, accepts_map]
  constructor
  · rintro ⟨result, accepted⟩
    exact .of_foldUpTo accepted
  · intro ends
    exact ends.foldUpTo forward f (Nat.lt_succ_self _) [] state 0

/-- A fold never rejects. -/
@[simp] theorem rejects_foldl (state : σ) (f : σ → α → σ) :
    ¬ (parser.foldl state f).Rejects input := by
  rw [foldl, rejects_map]
  rintro ⟨error, rejected⟩
  exact foldUpTo_ne_reject f _ [] state 0 input error rejected

/-- One or more runs leave the input where the runs after the first end. -/
theorem accepts_many1 (forward : parser.Forward) :
    parser.many1.Accepts input last ↔
      ∃ middle, parser.Accepts input middle ∧ parser.EndsAt middle last := by
  rw [accepts_andThen rfl]
  simp only [accepts_foldl forward]
  rw [exists_comm]
  simp only [Accepts, exists_and_right]

/-- One or more runs are rejected where the first run is. -/
theorem rejects_many1 : parser.many1.Rejects input ↔ parser.Rejects input := by
  rw [rejects_andThen rfl]
  simp

end GrammarKit.Parser
