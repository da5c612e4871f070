import GrammarKit.Proofs.Instrumented
import GrammarKit.Proofs.Recognition
import GrammarKit.Proofs.Term
/-!
# Which named parser an error comes from

An error gets its name on the way out, from each named parser it passes without having one. A run
agrees with its instrumented runs when all come to one verdict, up to what they mark an error with,
and the error is so far named by the innermost of the parsers that were running inside when it was
made. Every combinator keeps runs in agreement, a name by adding itself to those running inside, so
the error of a whole parse has the innermost name that was running when it was made
(`Grammar.parser_production_innermost`).
-/

namespace GrammarKit

/-- The innermost name that is not empty, if there is one. -/
def innermost (running : List String) : String := (running.find? (· ≠ "")).getD ""

/-- A name further out only counts when there is none further in. -/
theorem innermost_append_singleton (inside : List String) (name : String) :
    innermost (inside ++ [name]) = if innermost inside = "" then name else innermost inside := by
  unfold innermost
  rw [List.find?_append]
  cases found : inside.find? (· ≠ "") with
  | some inner =>
    have filled : inner ≠ "" := by simpa using List.find?_some found
    simp [filled]
  | none =>
    by_cases empty : name = "" <;> simp [empty]

/-- An error named by those inside gets the name around them as the next one further out. -/
theorem ParseError.production_within {error : ParseError} {inside : List String}
    (named : error.production = innermost inside) (name : String) :
    (error.within name).production = innermost (inside ++ [name]) := by
  rw [innermost_append_singleton, ← named]
  unfold within
  split <;> rfl

/-- A mark on an error hides what it was named. -/
theorem ParseError.mark_within (name mark : String) (error : ParseError) :
    { error.within name with production := mark } = { error with production := mark } := by
  unfold within
  split <;> rfl

/-! ## Parsers without named parsers inside -/

/-- Whether an outcome is no error with a name. -/
def Outcome.Unnamed {α : Type} (outcome : Outcome α) : Prop :=
  ∀ error, outcome.verdict = .reject error → error.production = ""

namespace Outcome.Unnamed

variable {α β : Type}

/-- An accepted value is no error. -/
theorem accept (value : α) (rest : Input) : Unnamed ⟨[], .accept value rest⟩ :=
  fun _ rejected => nomatch rejected

/-- An error without a name has no name. -/
theorem reject {error : ParseError} (unnamed : error.production = "") :
    Unnamed (α := α) ⟨[], .reject error⟩ := by
  rintro _ ⟨⟩
  exact unnamed

/-- Going on after an accepted value makes no error with a name when neither step does. -/
theorem andThen {outcome : Outcome α} {next : α → Input → Outcome β} (first : outcome.Unnamed)
    (later : ∀ value rest, (next value rest).Unnamed) : (outcome.andThen next).Unnamed := by
  intro error rejected
  rw [verdict_andThen] at rejected
  cases decided : outcome.verdict with
  | accept value rest => exact later value rest error (by simpa only [decided] using rejected)
  | reject earlier =>
    obtain rfl : earlier = error := by simpa only [decided, Verdict.reject.injEq] using rejected
    exact first earlier decided
  | fault => simp only [decided, reduceCtorEq] at rejected

end Outcome.Unnamed

namespace Parser

variable {α β σ : Type} {parser : Parser α}

/-- Whether the errors of a parser have no name. -/
def Unnamed (parser : Parser α) : Prop := ∀ input, (parser input).Unnamed

/-- The error of any symbol has no name. -/
theorem unnamed_oneChar : Unnamed oneChar := by
  intro input
  unfold oneChar
  split
  · exact .accept _ _
  · exact .reject rfl

/-- The errors of a text have no name. -/
theorem unnamed_litStringFrom (text : String) (expected : List Char) :
    Unnamed (litStringFrom text expected) := by
  induction expected with
  | nil => exact fun input => .accept text input
  | cons wanted others ih =>
    intro input
    unfold litStringFrom
    split
    · exact .reject rfl
    · split
      · exact ih _
      · exact .reject rfl

/-- The errors of a fold have no name: there are none. -/
theorem unnamed_foldl (parser : Parser α) (state : σ) (f : σ → α → σ) :
    Unnamed (foldl parser state f) :=
  fun _ error rejected => (rejects_foldl state f ⟨error, rejected⟩).elim

/-- An image has no names in its errors when its parser has none. -/
theorem Unnamed.map (unnamed : parser.Unnamed) (f : α → β) : (map f parser).Unnamed :=
  fun input => (unnamed input).andThen fun value rest => .accept (f value) rest

/-- A test has no names in its errors when its parser has none. -/
theorem Unnamed.acceptWhen [Shown α] (unnamed : parser.Unnamed) (test : α → Bool) (kind : String)
    (args : List Host) : (parser.acceptWhen test kind args).Unnamed := by
  refine fun input => (unnamed input).andThen fun value rest => ?_
  split
  · exact .accept value rest
  · exact .reject rfl

/-- A conversion that refuses with reasons has no names in its errors when its parser has none. -/
theorem Unnamed.mapOrRefuse (unnamed : parser.Unnamed) {f : α → Except Refusal β}
    (reasons : ∀ value error, f value ≠ .error (.error error)) :
    (mapOrRefuse f parser).Unnamed := by
  refine fun input => (unnamed input).andThen fun value rest => ?_
  split
  · exact .accept _ rest
  · exact absurd ‹_› (reasons value _)
  · exact .reject rfl

/-- A fold after a first value has no names in its errors when the parser of that value has none. -/
theorem Unnamed.thenFoldl {first : Parser β} (unnamed : first.Unnamed) (parser : Parser α)
    (start : β → σ) (f : σ → α → σ) :
    Unnamed fun input =>
      (first input).andThen fun value rest => parser.foldl (start value) f rest :=
  fun input => (unnamed input).andThen fun value rest => unnamed_foldl parser (start value) f rest

/-- The error of a blank has no name. -/
theorem unnamed_space : Unnamed space := unnamed_oneChar.acceptWhen _ _ _

/-- The error of a digit has no name. -/
theorem unnamed_digit : Unnamed digit := unnamed_oneChar.acceptWhen _ _ _

/-- The errors of a whole number have no name. -/
theorem unnamed_int : Unnamed int := by
  refine (unnamed_digit.thenFoldl digit _ _).mapOrRefuse fun codes error => ?_
  unfold readInteger
  split <;> nofun

end Parser

/-! ## Runs in agreement -/

/-- Whether an error amid running parsers agrees with the instrumented ones: it is named by the
innermost of the parsers that were running inside when it was made, and they are marked by these and
those running around. -/
def ParseError.Agrees (running : List String) (error : ParseError)
    (marked : Marking → ParseError) : Prop :=
  ∃ inside, error.production = innermost inside ∧
    ∀ mark, marked mark = { error with production := mark (inside ++ running) }

/-- Whether a verdict amid running parsers agrees with the instrumented ones. -/
inductive Verdict.Agrees {α : Type} (running : List String) (verdict : Verdict α)
    (marked : Marking → Verdict α) : Prop where
  /-- All accept the same value. -/
  | accept (value : α) (rest : Input) (plain : verdict = .accept value rest)
      (same : ∀ mark, marked mark = .accept value rest)
  /-- All reject with errors that agree. -/
  | reject (error : ParseError) (errors : Marking → ParseError)
      (agrees : error.Agrees running errors) (plain : verdict = .reject error)
      (same : ∀ mark, marked mark = .reject (errors mark))
  /-- All stop. -/
  | fault (fault : ParseFault) (plain : verdict = .fault fault)
      (same : ∀ mark, marked mark = .fault fault)

/-- Whether a parser amid running parsers agrees with the instrumented ones on every input. -/
def Parser.Agrees {α : Type} (running : List String) (parser : Parser α)
    (marked : Marking → Parser α) : Prop :=
  ∀ input, (parser input).verdict.Agrees running fun mark => (marked mark input).verdict

namespace Verdict.Agrees

variable {α β : Type} {running : List String}

/-- Accepting agrees with itself. -/
theorem accepting (value : α) (rest : Input) :
    Agrees running (.accept value rest) fun _ => .accept value rest :=
  .accept value rest rfl fun _ => rfl

/-- Errors without a name agree with those that the running parsers mark. -/
theorem unnamed {error : ParseError} (unnamed : error.production = "") :
    Agrees (α := α) running (.reject error)
      fun mark => .reject { error with production := mark running } :=
  .reject error _ ⟨[], unnamed, fun _ => rfl⟩ rfl fun _ => rfl

/-- Going on after an accepted value keeps verdicts in agreement. -/
theorem andThen {outcome : Outcome α} {marked : Marking → Outcome α}
    {next : α → Input → Outcome β} {next' : Marking → α → Input → Outcome β}
    (agrees : outcome.verdict.Agrees running fun mark => (marked mark).verdict)
    (later : ∀ value rest,
      (next value rest).verdict.Agrees running fun mark => (next' mark value rest).verdict) :
    (outcome.andThen next).verdict.Agrees running
      fun mark => ((marked mark).andThen (next' mark)).verdict := by
  simp only [Outcome.verdict_andThen]
  cases agrees with
  | accept value rest plain same => simpa only [plain, same] using later value rest
  | reject error errors agrees plain same =>
    simpa only [plain, same] using .reject error errors agrees rfl fun _ => rfl
  | fault fault plain same => simpa only [plain, same] using .fault fault rfl fun _ => rfl

/-- Going on after errors that agree keeps verdicts in agreement. -/
theorem orElse {outcome : Outcome α} {marked : Marking → Outcome α}
    {next : ParseError → Outcome α} {next' : Marking → ParseError → Outcome α}
    (agrees : outcome.verdict.Agrees running fun mark => (marked mark).verdict)
    (later : ∀ error errors, error.Agrees running errors →
      (next error).verdict.Agrees running fun mark => (next' mark (errors mark)).verdict) :
    (outcome.orElse next).verdict.Agrees running
      fun mark => ((marked mark).orElse (next' mark)).verdict := by
  simp only [Outcome.verdict_orElse]
  cases agrees with
  | accept value rest plain same => simpa only [plain, same] using accepting value rest
  | reject error errors agrees plain same =>
    simpa only [plain, same] using later error errors agrees
  | fault fault plain same => simpa only [plain, same] using .fault fault rfl fun _ => rfl

end Verdict.Agrees

namespace Parser.Agrees

variable {α β γ σ : Type} {running : List String}

/-! ### Parsers that run others in order -/

/-- Accepting in place agrees with itself. -/
theorem pure (value : α) : Agrees running (Parser.pure value) fun _ => Parser.pure value :=
  fun input => .accepting value input

/-- Stopping agrees with itself. -/
theorem stop (fault : ParseFault) :
    Agrees running (Parser.stop fault : Parser α) fun _ => Parser.stop fault :=
  fun _ => .fault fault rfl fun _ => rfl

/-- A parser whose errors have no names agrees with itself with marks on its errors. -/
theorem signed {parser : Parser α} (unnamed : parser.Unnamed) :
    Agrees running parser fun mark => parser.signed (mark running) := by
  intro input
  change Verdict.Agrees running (parser input).verdict
    fun mark => (parser input).verdict.signed (mark running)
  cases decided : (parser input).verdict with
  | accept value rest => exact .accepting value rest
  | reject error => exact .unnamed (unnamed input error decided)
  | fault fault => exact .fault fault rfl fun _ => rfl

/-- A parser that never rejects agrees with itself. -/
theorem constant {parser : Parser α} (never : ∀ input, ¬ parser.Rejects input) :
    Agrees running parser fun _ => parser := by
  intro input
  change Verdict.Agrees running (parser input).verdict fun _ => (parser input).verdict
  cases decided : (parser input).verdict with
  | accept value rest => exact .accepting value rest
  | reject error => exact absurd ⟨error, decided⟩ (never input)
  | fault fault => exact .fault fault rfl fun _ => rfl

/-- Images of parsers in agreement agree. -/
theorem map (f : α → β) {parser : Parser α} {marked : Marking → Parser α}
    (agrees : parser.Agrees running marked) :
    (Parser.map f parser).Agrees running fun mark => Parser.map f (marked mark) :=
  fun input => (agrees input).andThen fun value rest => .accepting (f value) rest

/-- Conversions of parsers in agreement agree, when they refuse with errors that have no name. -/
theorem mapOrRefuse {f : α → Except Refusal β}
    (unnamed : ∀ value error, f value = .error (.error error) → error.production = "")
    {parser : Parser α} {marked : Marking → Parser α} (agrees : parser.Agrees running marked) :
    (Parser.mapOrRefuse f parser).Agrees running
      fun mark => Parser.mapOrRefuseAs (mark running) f (marked mark) := by
  refine fun input => (agrees input).andThen fun value rest => ?_
  cases decided : f value with
  | ok converted => exact .accepting converted rest
  | error refusal =>
    cases refusal with
    | error error => exact .unnamed (unnamed value error decided)
    | reason text => exact .unnamed rfl

/-- Tests of parsers in agreement agree. -/
theorem acceptWhen [Shown α] {parser : Parser α} {marked : Marking → Parser α}
    (agrees : parser.Agrees running marked) (test : α → Bool) (kind : String) (args : List Host) :
    (parser.acceptWhen test kind args).Agrees running
      fun mark => (marked mark).acceptWhenAs (mark running) test kind args := by
  refine fun input => (agrees input).andThen fun value rest => ?_
  cases test value with
  | true => exact .accepting value rest
  | false => exact .unnamed rfl

/-- Two parsers in order agree when each agrees. -/
theorem seq2 {first : Parser α} {second : Parser β} {marked : Marking → Parser α}
    {marked' : Marking → Parser β} (head : first.Agrees running marked)
    (tail : second.Agrees running marked') :
    (Parser.seq2 first second).Agrees running
      fun mark => Parser.seq2 (marked mark) (marked' mark) :=
  fun input => (head input).andThen fun _ rest => map _ tail rest

/-- Three parsers in order agree when each agrees. -/
theorem seq3 {first : Parser α} {second : Parser β} {third : Parser γ}
    {marked : Marking → Parser α} {marked' : Marking → Parser β} {marked'' : Marking → Parser γ}
    (head : first.Agrees running marked) (middle : second.Agrees running marked')
    (tail : third.Agrees running marked'') :
    (Parser.seq3 first second third).Agrees running
      fun mark => Parser.seq3 (marked mark) (marked' mark) (marked'' mark) :=
  fun input => (seq2 head middle input).andThen fun _ rest => map _ tail rest

/-- Parsers in order agree when each agrees. -/
theorem seq {ι : Type} {items : List ι} {parser : ι → Parser α} {marked : Marking → ι → Parser α}
    (agrees : ∀ item ∈ items, (parser item).Agrees running fun mark => marked mark item) :
    (Parser.seq (items.map parser)).Agrees running
      fun mark => Parser.seq (items.map (marked mark)) := by
  induction items with
  | nil => exact pure []
  | cons first others ih =>
    obtain ⟨head, tail⟩ := List.forall_mem_cons.mp agrees
    exact fun input => (head input).andThen fun _ rest => map _ (ih tail) rest

/-- A fixed number of runs of parsers in agreement agrees. -/
theorem iterate {parser : Parser α} {marked : Marking → Parser α}
    (agrees : parser.Agrees running marked) (count : Nat) :
    (parser.iterate count).Agrees running fun mark => (marked mark).iterate count := by
  induction count with
  | zero => exact pure []
  | succ count ih => exact fun input => (agrees input).andThen fun _ rest => map _ ih rest

/-! ### Parsers that run others instead of each other -/

/-- Whether the errors that choices have kept so far agree, if they have kept any. -/
inductive Kept (running : List String) (failed : Option ParseError)
    (marked : Marking → Option ParseError) : Prop where
  /-- None have been kept. -/
  | none (plain : failed = none) (same : ∀ mark, marked mark = none)
  /-- The errors kept agree. -/
  | some (error : ParseError) (errors : Marking → ParseError) (agrees : error.Agrees running errors)
      (plain : failed = some error) (same : ∀ mark, marked mark = some (errors mark))

/-- A policy picks errors that agree, since marks do not move errors. -/
theorem pick (policy : ErrorPolicy) {failed : Option ParseError}
    {marked : Marking → Option ParseError} (kept : Kept running failed marked) {error : ParseError}
    {errors : Marking → ParseError} (agrees : error.Agrees running errors) :
    (policy.pick failed error).Agrees running
      fun mark => policy.pick (marked mark) (errors mark) := by
  cases policy with
  | last => exact agrees
  | furthest =>
    cases kept with
    | none plain same => simpa only [plain, same, ErrorPolicy.pick] using agrees
    | some older olders agrees' plain same =>
      have place (mark : Marking) : (errors mark).location = error.location := by
        obtain ⟨inside, -, marks⟩ := agrees
        rw [marks]
      have place' (mark : Marking) : (olders mark).location = older.location := by
        obtain ⟨inside, -, marks⟩ := agrees'
        rw [marks]
      simp only [plain, same, ErrorPolicy.pick, place, place']
      split
      · exact agrees'
      · exact agrees

/-- Choices among parsers in agreement agree, with errors kept so far that agree. -/
theorem firstOfAfter {ι : Type} (items : List ι) (parser : ι → Parser α)
    (marked : Marking → ι → Parser α)
    (agrees : ∀ item ∈ items, (parser item).Agrees running fun mark => marked mark item)
    {failed : Option ParseError} {failed' : Marking → Option ParseError}
    (kept : Kept running failed failed') :
    (Parser.firstOfAfter failed (items.map parser)).Agrees running
      fun mark => Parser.firstOfAfterAs (mark running) (failed' mark)
        (items.map (marked mark)) := by
  induction items generalizing failed failed' with
  | nil =>
    intro input
    cases kept with
    | none plain same =>
      simpa only [List.map_nil, Parser.firstOfAfter, Parser.firstOfAfterAs, plain, same] using
        .unnamed rfl
    | some error errors agrees plain same =>
      simpa only [List.map_nil, Parser.firstOfAfter, Parser.firstOfAfterAs, plain, same] using
        .reject error errors agrees rfl fun _ => rfl
  | cons first others ih =>
    obtain ⟨head, tail⟩ := List.forall_mem_cons.mp agrees
    exact fun input => (head input).orElse fun error errors agrees =>
      ih tail (.some _ _ (pick _ kept agrees) rfl fun _ => rfl) input

/-- Parsers in agreement with a default agree. -/
theorem optional {parser : Parser α} {marked : Marking → Parser α}
    (agrees : parser.Agrees running marked) (default : α) :
    (parser.optional default).Agrees running fun mark =>
      Parser.firstOfAfterAs (mark running) none [marked mark, Parser.pure default] :=
  firstOfAfter [(parser, marked), (Parser.pure default, fun _ => Parser.pure default)]
    Prod.fst (fun mark item => item.2 mark)
    (List.forall_mem_cons.mpr ⟨agrees, List.forall_mem_singleton.mpr (pure default)⟩)
    (.none rfl fun _ => rfl)

/-- Looking ahead with parsers in agreement agrees. -/
theorem lookAhead {parser : Parser α} {marked : Marking → Parser α}
    (agrees : parser.Agrees running marked) :
    parser.lookAhead.Agrees running fun mark => (marked mark).lookAhead :=
  fun input => (agrees input).andThen fun value _ => .accepting value input

/-- Negations of parsers in agreement agree. -/
theorem not [Shown α] {parser : Parser α} {marked : Marking → Parser α}
    (agrees : parser.Agrees running marked) :
    parser.not.Agrees running fun mark => (marked mark).notAs (mark running) := by
  intro input
  simp only [Parser.verdict_not, Parser.verdict_notAs]
  cases agrees input with
  | accept value rest plain same => simpa only [plain, same] using .unnamed rfl
  | reject error errors agrees plain same => simpa only [plain, same] using .accepting () input
  | fault fault plain same => simpa only [plain, same] using .fault fault rfl fun _ => rfl

/-- Parsers of the whole input agree when the parsers inside do. -/
theorem entireInput {parser : Parser α} {marked : Marking → Parser α}
    (agrees : parser.Agrees running marked) :
    parser.entireInput.Agrees running fun mark => (marked mark).entireInputAs (mark running) := by
  refine fun input => (agrees input).andThen fun value rest => ?_
  cases rest.peek? with
  | some symbol => exact .unnamed rfl
  | none => exact .accepting value rest

/-- Parsers of the whole input with an error of one's own agree when the parsers inside do. -/
theorem entireInputWith {parser : Parser α} {marked : Marking → Parser α}
    (agrees : parser.Agrees running marked) (kind : String) (args : List Host) :
    (parser.entireInputWith kind args).Agrees running
      fun mark => (marked mark).entireInputWithAs (mark running) kind args := by
  refine fun input => (agrees input).andThen fun value rest => ?_
  cases rest.isEmpty with
  | true => exact .accepting value rest
  | false => exact .unnamed rfl

/-! ### Repetition -/

/-- Bounded runs of parsers in agreement agree. -/
theorem foldUpTo {parser : Parser α} {marked : Marking → Parser α}
    (agrees : parser.Agrees running marked) (f : σ → α → σ) (bound : Nat) (records : List Record)
    (records' : Marking → List Record) (state : σ) (runs : Nat) (input : Input) :
    (parser.foldUpTo f bound records state runs input).verdict.Agrees running
      fun mark => ((marked mark).foldUpTo f bound (records' mark) state runs input).verdict := by
  induction bound generalizing records records' state runs input with
  | zero => exact .fault .endless rfl fun _ => rfl
  | succ bound ih =>
    simp only [Parser.verdict_foldUpTo_succ]
    cases agrees input with
    | accept value rest plain same =>
      by_cases idle : rest.cursor = input.cursor
      · simpa only [plain, same, idle, ↓reduceIte] using .accepting _ rest
      · simpa only [plain, same, idle, ↓reduceIte] using ih _ _ _ _ rest
    | reject error errors agrees plain same =>
      simpa only [plain, same] using .accepting _ input
    | fault fault plain same => simpa only [plain, same] using .fault fault rfl fun _ => rfl

/-- Folds of parsers in agreement agree. -/
theorem foldl {parser : Parser α} {marked : Marking → Parser α}
    (agrees : parser.Agrees running marked) (state : σ) (f : σ → α → σ) :
    (parser.foldl state f).Agrees running fun mark => (marked mark).foldl state f :=
  map _ fun input => foldUpTo agrees f _ [] (fun _ => []) state 0 input

/-- Folds after first values agree when the parsers of both do. -/
theorem thenFoldl {first : Parser β} {marked : Marking → Parser β} {parser : Parser α}
    {marked' : Marking → Parser α} (head : first.Agrees running marked)
    (tail : parser.Agrees running marked') (start : β → σ) (f : σ → α → σ) :
    Agrees running
      (fun input => (first input).andThen fun value rest => parser.foldl (start value) f rest)
      fun mark input => (marked mark input).andThen fun value rest =>
        (marked' mark).foldl (start value) f rest :=
  fun input => (head input).andThen fun value rest => foldl tail (start value) f rest

/-! ### Names -/

/-- A name agrees with running amid it. -/
theorem named (name : String) {parser : Parser α} {marked : Marking → Parser α}
    (agrees : parser.Agrees (name :: running) marked) :
    (Parser.named name parser).Agrees running marked := by
  intro input
  rw [Parser.verdict_named]
  cases agrees input with
  | accept value rest plain same => simpa only [plain] using .accept value rest rfl same
  | reject error errors agrees plain same =>
    obtain ⟨inside, named, marks⟩ := agrees
    have outwards : (error.within name).Agrees running errors := by
      refine ⟨inside ++ [name], ParseError.production_within named name, fun mark => ?_⟩
      rw [marks, ParseError.mark_within, List.append_assoc, List.singleton_append]
    simpa only [plain] using .reject _ errors outwards rfl same
  | fault fault plain same => simpa only [plain] using .fault fault rfl same

/-! ### Terms -/

/-- The instrumented parsers of several terms are those of each. -/
theorem parsersAmid_eq_map (mark : Marking) (rule : List String → String → Parser Host)
    (running : List String) (terms : List Term) :
    Term.parsersAmid mark rule running terms =
      terms.map (Term.parserAmid mark rule running) := by
  induction terms with
  | nil => rfl
  | cons first others ih => rw [Term.parsersAmid, ih, List.map_cons]

/-- A term over rules that agree agrees, when the errors it refuses values with have no name. -/
theorem term {rule : String → Parser Host} {ruleAmid : Marking → List String → String → Parser Host}
    (rules : ∀ running name, Agrees running (rule name) fun mark => ruleAmid mark running name)
    {term : Term} (refusals : term.Every (Term.RefusesWith (·.production = "")))
    (running : List String) :
    Agrees running (term.parser rule) fun mark =>
      term.parserAmid mark (ruleAmid mark) running := by
  induction refusals generalizing running with
  | @intro term here inside ih =>
  have only {part : Term} (single : term.parts = [part]) (running : List String) :
      Agrees running (part.parser rule) fun mark => part.parserAmid mark (ruleAmid mark) running :=
    ih part (by simp [single]) running
  have both {first second : Term} (pair : term.parts = [first, second]) :
      Agrees running (first.parser rule)
          (fun mark => first.parserAmid mark (ruleAmid mark) running) ∧
        Agrees running (second.parser rule)
          fun mark => second.parserAmid mark (ruleAmid mark) running :=
    ⟨ih first (by simp [pair]) running, ih second (by simp [pair]) running⟩
  have sequence {terms : List Term} (each : ∀ part ∈ terms, ∀ running,
      Agrees running (part.parser rule) fun mark => part.parserAmid mark (ruleAmid mark) running) :
      Agrees running (Parser.seq (Term.parsers rule terms)) fun mark =>
        Parser.seq (Term.parsersAmid mark (ruleAmid mark) running terms) := by
    simp only [Term.parsers_eq_map, parsersAmid_eq_map]
    exact seq fun part member => each part member running
  cases term with
  | oneChar => exact signed (unnamed_oneChar.map _)
  | lit | range | letter | lowerLetter | upperLetter =>
    exact signed ((unnamed_oneChar.acceptWhen _ _ _).map _)
  | digit => exact signed (unnamed_digit.map _)
  | space => exact signed (unnamed_space.map _)
  | litString text => exact signed ((unnamed_litStringFrom text _).map _)
  | spaces => exact signed ((unnamed_space.thenFoldl space _ _).map _)
  | digitValue => exact signed ((unnamed_digit.map _).map _)
  | int => exact signed (unnamed_int.map _)
  | pure value => exact signed fun input => .accept value input
  | fail kind args => exact signed fun input => .reject rfl
  | rejectNothing => exact signed fun input => nofun
  | always part value => exact map _ (only rfl running)
  | alwaysSymbol => exact signed ((unnamed_oneChar.acceptWhen _ _ _).map _)
  | token part =>
    exact map _ (seq2 (only rfl running) (constant fun input => rejects_foldl () _))
  | acceptWhen part => exact acceptWhen (only rfl running) _ _ _
  | seq terms => exact map _ (sequence ih)
  | seq2 first second | left first second | right first second =>
    exact map _ (seq2 (both rfl).1 (both rfl).2)
  | seq3 first second third =>
    exact map _ (seq3 (ih first (by simp [Term.parts]) running)
      (ih second (by simp [Term.parts]) running) (ih third (by simp [Term.parts]) running))
  | nthOf index terms => exact map _ (sequence ih)
  | firstOf terms =>
    change Agrees running (Parser.firstOf (Term.parsers rule terms)) fun mark =>
      Parser.firstOfAfterAs (mark running) none
        (Term.parsersAmid mark (ruleAmid mark) running terms)
    simp only [Term.parsers_eq_map, parsersAmid_eq_map]
    exact firstOfAfter terms _ _ (fun part member => ih part member running)
      (.none rfl fun _ => rfl)
  | optional part default => exact optional (only rfl running) default
  | transform part f => exact map f (only rfl running)
  | transformOrRefuse part f => exact mapOrRefuse here (only rfl running)
  | ref name => exact rules running name
  | lookAhead part => exact lookAhead (only rfl running)
  | not part => exact map _ (not (only rfl running))
  | entireInput part => exact entireInput (only rfl running)
  | entireInputWith part kind args => exact entireInputWith (only rfl running) kind args
  | many part => exact map _ (foldl (only rfl running) _ _)
  | many1 part => exact map _ (thenFoldl (only rfl running) (only rfl running) _ _)
  | any part => exact map _ (foldl (only rfl running) () _)
  | any1 part => exact map _ (thenFoldl (only rfl running) (only rfl running) _ _)
  | iterate part count => exact map _ (iterate (only rfl running) _)
  | foldl part initial f => exact foldl (only rfl running) initial f
  | foldl1 part initial f => exact thenFoldl (only rfl running) (only rfl running) _ f
  | foldlFrom part first f => exact thenFoldl (both rfl).1 (both rfl).2 id f
  | named name part => exact named name (only rfl (name :: running))

end Parser.Agrees

namespace Grammar

variable {grammar : Grammar}

/-- The rules of a grammar agree at every depth, when the errors they refuse values with have no
name. -/
theorem ruleParser_agrees (rules : grammar.Every (Term.RefusesWith (·.production = "")))
    (depth : Nat) (running : List String) (name : String) :
    Parser.Agrees running (grammar.ruleParser depth name) fun mark =>
      grammar.ruleParserAmid mark depth running name := by
  induction depth generalizing running name with
  | zero => exact .stop .endless
  | succ depth ih =>
    simp only [ruleParser, ruleParserAmid]
    cases found : grammar.rule? name with
    | some body => exact .term ih (rules name body found) running
    | none => exact .stop (.missingRule name)

/-- Where a parse rejects, the production of its error is the innermost name that is not empty among
those of the parsers that were running when the error was made, and empty if there is none: any
instrumented run rejects with the same error, marked with just these parsers. Where a parse does not
reject, no instrumented run does. -/
theorem parser_production_innermost
    (rules : grammar.Every (Term.RefusesWith (·.production = ""))) {term : Term}
    (refusals : term.Every (Term.RefusesWith (·.production = ""))) (input : Input) :
    (∀ error, (grammar.parser term input).verdict = .reject error →
      ∃ running, error.production = innermost running ∧
        ∀ mark, (grammar.parserAmid mark term input).verdict =
          .reject { error with production := mark running }) ∧
    ((∀ error, (grammar.parser term input).verdict ≠ .reject error) →
      ∀ mark, (grammar.parserAmid mark term input).verdict =
        (grammar.parser term input).verdict) := by
  have agrees : (grammar.parser term input).verdict.Agrees [] fun mark =>
      (grammar.parserAmid mark term input).verdict :=
    Parser.Agrees.term (ruleParser_agrees rules _) refusals [] input
  cases agrees with
  | accept value rest plain same =>
    refine ⟨fun error rejected => ?_, fun _ mark => by rw [plain, same]⟩
    rw [plain] at rejected
    cases rejected
  | reject error errors agrees plain same =>
    refine ⟨fun other rejected => ?_, fun never => absurd plain (never error)⟩
    obtain rfl : error = other := by simpa only [plain, Verdict.reject.injEq] using rejected
    obtain ⟨running, named, marks⟩ := agrees
    refine ⟨running, named, fun mark => ?_⟩
    rw [same, marks, List.append_nil]
  | fault fault plain same =>
    refine ⟨fun error rejected => ?_, fun _ mark => by rw [plain, same]⟩
    rw [plain] at rejected
    cases rejected

/-- A letter and one of two others, or no letter at all. -/
def letters : Grammar :=
  ⟨[("pair", .named "pair" (.firstOf
    [.seq2 (.lit 97) (.named "second" (.named "" (.firstOf [.named "low" (.lit 98), .lit 99]))),
      .transformOrRefuse .digit fun _ => .error (.error ⟨"refused", "no letter", ⟨0, 1, 1⟩, ""⟩)]))]⟩

/-- The error of a pair that is not one, furthest into the source: the last letter tried there has
no name of its own and the name around it is empty, so the name of the place counts. -/
theorem parser_production_innermost_letters :
    let term := Term.named "whole" (.ref "pair")
    let input := Input.ofSymbols ['a', 'x'] { errorPolicy := .furthest }
    letters.Every (Term.RefusesWith (·.production = "")) ∧
    term.Every (Term.RefusesWith (·.production = "")) ∧
    ∃ error, (letters.parser term input).verdict = .reject error ∧
      error.production = "second" ∧ error.location = ⟨1, 1, 2⟩ ∧
      ∃ running, "second" = innermost running ∧
        ∀ mark, (letters.parserAmid mark term input).verdict =
          .reject { error with production := mark running } := by
  intro term input
  have second : (Term.named "second" (.named "" (.firstOf
      [.named "low" (.lit 98), .lit 99]))).Every (Term.RefusesWith (·.production = "")) :=
    .single rfl trivial (.single rfl trivial
      (.pair rfl trivial (.single rfl trivial (.leaf rfl trivial)) (.leaf rfl trivial)))
  have refused : (Term.transformOrRefuse .digit fun _ =>
      .error (.error ⟨"refused", "no letter", ⟨0, 1, 1⟩, ""⟩)).Every
        (Term.RefusesWith (·.production = "")) := by
    refine .single rfl (fun value error same => ?_) (.leaf rfl trivial)
    cases same
    rfl
  have rules : letters.Every (Term.RefusesWith (·.production = "")) :=
    every_of_forall_mem (List.forall_mem_singleton.mpr
      (.single rfl trivial (.pair rfl trivial (.pair rfl trivial (.leaf rfl trivial) second)
        refused)))
  have whole : term.Every (Term.RefusesWith (·.production = "")) :=
    .single rfl trivial (.leaf rfl trivial)
  exact ⟨rules, whole, _, rfl, rfl, rfl,
    (parser_production_innermost rules whole input).1 _ rfl⟩

end Grammar

end GrammarKit
