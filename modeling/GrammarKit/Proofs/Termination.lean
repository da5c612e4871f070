import GrammarKit.Proofs.LeftRecursion
import GrammarKit.Proofs.Recognition
/-!
# Termination

A parser answers an input when it accepts or rejects it and, if it accepts without using up a
symbol, may be idle (`Parser.Answers`). Combinators answer where their parsers do. A term answers as
soon as the rules it may run first answer at its place and all rules answer wherever fewer symbols
remain (`Term.reliable_of_every`). In a grammar without left recursion these are rules of a lower
rank here and rules of any rank later, so rules answer by induction on the symbols that remain and,
among them, on the rank (`ruleParser_answers`). Repetitions ask nothing of their terms: a run that
uses up no symbol is the last.
-/

namespace GrammarKit

namespace Parser

variable {α β σ : Type} {parser : Parser α} {input : Input} {idle idle' : Bool}

/-- Whether a parser accepts or rejects an input, and uses up a symbol of what it accepts unless it
may be idle. -/
inductive Answers (parser : Parser α) (input : Input) (idle : Bool) : Prop where
  /-- It accepts, in place or with fewer symbols remaining. -/
  | accept {value : α} {rest : Input} (accepted : (parser input).verdict = .accept value rest)
      (moves : rest = input ∧ idle = true ∨ rest.remaining < input.remaining)
  /-- It rejects. -/
  | reject {error : ParseError} (rejected : (parser input).verdict = .reject error)

namespace Answers

/-- An answer is a verdict. -/
theorem decided (answers : parser.Answers input idle) :
    (∃ value rest, (parser input).verdict = .accept value rest) ∨
      ∃ error, (parser input).verdict = .reject error := by
  cases answers with
  | accept accepted moves => exact .inl ⟨_, _, accepted⟩
  | reject rejected => exact .inr ⟨_, rejected⟩

/-- A parser that may be idle less often may be idle. -/
theorem mono (answers : parser.Answers input idle) (more : idle = true → idle' = true) :
    parser.Answers input idle' := by
  cases answers with
  | accept accepted moves => exact .accept accepted (moves.imp_left (And.imp_right more))
  | reject rejected => exact .reject rejected

/-- Only the verdict of a parser matters. -/
theorem congr {other : Parser α} (answers : parser.Answers input idle)
    (same : (other input).verdict = (parser input).verdict) : other.Answers input idle := by
  cases answers with
  | accept accepted moves => exact .accept (same.trans accepted) moves
  | reject rejected => exact .reject (same.trans rejected)

/-- A parser that goes on where fewer symbols remain has used up a symbol. -/
theorem further {whole : Parser α} {middle : Input} (answers : parser.Answers middle idle')
    (shorter : middle.remaining < input.remaining)
    (same : (whole input).verdict = (parser middle).verdict) : whole.Answers input idle := by
  cases answers with
  | accept accepted moves =>
    refine .accept (same.trans accepted) (.inr ?_)
    rcases moves with ⟨rfl, -⟩ | fewer
    · exact shorter
    · exact fewer.trans shorter
  | reject rejected => exact .reject (same.trans rejected)

/-! ## Parsers without parts -/

/-- A fixed value is accepted in place. -/
theorem pure (value : α) : (Parser.pure value).Answers input true := .accept rfl (.inl ⟨rfl, rfl⟩)

/-- Any symbol is used up. -/
theorem oneChar : Parser.oneChar.Answers input false := by
  cases found : input.peek? with
  | none => exact .reject (by rw [Parser.oneChar, found])
  | some symbol =>
    have shorter := Input.remaining_past found
    exact .accept (by rw [Parser.oneChar, found]) (.inr (by omega))

/-- The symbols of a text are used up. -/
theorem litStringFrom (text : String) (expected : List Char) :
    (Parser.litStringFrom text expected).Answers input expected.isEmpty := by
  by_cases next : expected <+: input.rest
  · obtain ⟨value, accepted⟩ := (accepts_litStringFrom text expected).mpr ⟨next, rfl⟩
    refine .accept accepted ?_
    cases expected with
    | nil => exact .inl ⟨rfl, rfl⟩
    | cons wanted others =>
      have enough := next.length_le
      rw [← Input.remaining_eq_length] at enough
      rw [Input.remaining_advance]
      simp only [List.length_cons] at enough ⊢
      exact .inr (by omega)
  · obtain ⟨error, rejected⟩ := (rejects_litStringFrom text expected).mpr next
    exact .reject rejected

/-! ## Parsers that run others in order -/

/-- A parser that goes on after an accepted value answers where both steps do. The second step runs
in place only if the first may be idle. -/
theorem andThen {whole : Parser β} {next : α → Parser β}
    (shape : whole input = (parser input).andThen next) (first : parser.Answers input idle)
    (here : idle = true → ∀ value, (next value).Answers input idle')
    (later : ∀ value rest, rest.remaining < input.remaining → (next value).Answers rest idle') :
    whole.Answers input (idle && idle') := by
  cases first with
  | @accept value middle accepted moves =>
    have goes : (whole input).verdict = (next value middle).verdict := by
      rw [shape, Outcome.verdict_andThen, accepted]
    rcases moves with ⟨rfl, idles⟩ | shorter
    · rw [idles, Bool.true_and]
      exact (here idles value).congr goes
    · exact (later value middle shorter).further shorter goes
  | @reject error rejected =>
    exact .reject (by rw [shape, Outcome.verdict_andThen, rejected])

/-- A parser that ends with an accepted value answers where the first step does. -/
theorem thenEnd {whole : Parser β} {next : α → Parser β}
    (shape : whole input = (parser input).andThen next) (first : parser.Answers input idle)
    (ends : ∀ value rest, (next value).Answers rest true) : whole.Answers input idle := by
  have answers := first.andThen shape (fun _ value => ends value input)
    (fun value rest _ => ends value rest)
  rwa [Bool.and_true] at answers

/-- An image answers where its parser does. -/
theorem map (answers : parser.Answers input idle) (f : α → β) :
    (Parser.map f parser).Answers input idle :=
  answers.thenEnd rfl fun value _ => pure (f value)

/-- A conversion answers where its parser does. -/
theorem mapOrRefuse (answers : parser.Answers input idle) (f : α → Except Refusal β) :
    (Parser.mapOrRefuse f parser).Answers input idle := by
  refine answers.thenEnd rfl fun value rest => ?_
  cases f value with
  | ok image => exact .accept rfl (.inl ⟨rfl, rfl⟩)
  | error refusal =>
    cases refusal with
    | reason text => exact .reject rfl
    | error error => exact .reject rfl

/-- A test answers where its parser does. -/
theorem acceptWhen [Shown α] (answers : parser.Answers input idle) (test : α → Bool)
    (kind : String) (args : List Host) :
    (Parser.acceptWhen parser test kind args).Answers input idle := by
  refine answers.thenEnd rfl fun value rest => ?_
  cases test value with
  | true => exact .accept rfl (.inl ⟨rfl, rfl⟩)
  | false => exact .reject rfl

/-- A blank is used up. -/
theorem space : Parser.space.Answers input false := oneChar.acceptWhen _ _ _

/-- A digit is used up. -/
theorem digit : Parser.digit.Answers input false := oneChar.acceptWhen _ _ _

/-- A parser of the whole input answers where its parser does. -/
theorem entireInput (answers : parser.Answers input idle) :
    parser.entireInput.Answers input idle := by
  refine answers.thenEnd rfl fun value rest => ?_
  cases found : rest.peek? with
  | none => exact .accept (by rw [found]) (.inl ⟨rfl, rfl⟩)
  | some symbol => exact .reject (by rw [found])

/-- A parser of the whole input with an error of its own answers where its parser does. -/
theorem entireInputWith (answers : parser.Answers input idle) (kind : String) (args : List Host) :
    (parser.entireInputWith kind args).Answers input idle := by
  refine answers.thenEnd rfl fun value rest => ?_
  by_cases ended : rest.isEmpty = true
  · exact .accept (by rw [if_pos ended]) (.inl ⟨rfl, rfl⟩)
  · exact .reject (by rw [if_neg ended])

/-- Two parsers in order answer where both do. -/
theorem seq2 {second : Parser β} (first : parser.Answers input idle)
    (here : idle = true → second.Answers input idle')
    (later : ∀ rest, rest.remaining < input.remaining → second.Answers rest idle') :
    (Parser.seq2 parser second).Answers input (idle && idle') :=
  first.andThen rfl (fun idles _ => (here idles).map _)
    (fun _ rest shorter => (later rest shorter).map _)

/-- One more parser in front of a sequence answers where both do. -/
theorem seq_cons {others : List (Parser α)} (first : parser.Answers input idle)
    (here : idle = true → (Parser.seq others).Answers input idle')
    (later : ∀ rest, rest.remaining < input.remaining → (Parser.seq others).Answers rest idle') :
    (Parser.seq (parser :: others)).Answers input (idle && idle') :=
  first.andThen rfl (fun idles _ => (here idles).map _)
    (fun _ rest shorter => (later rest shorter).map _)

/-! ## Parsers that run others instead of each other -/

/-- One more parser in front of a choice answers where both do. -/
theorem firstOfAfter_cons {others : List (Parser α)} {failed : Option ParseError}
    (first : parser.Answers input idle)
    (tail : ∀ failed, (Parser.firstOfAfter failed others).Answers input idle') :
    (Parser.firstOfAfter failed (parser :: others)).Answers input (idle || idle') := by
  cases first with
  | accept accepted moves =>
    refine .accept (by rw [Parser.firstOfAfter, Outcome.verdict_orElse, accepted]) ?_
    exact moves.imp_left (And.imp_right fun idles => by rw [idles, Bool.true_or])
  | @reject error rejected =>
    have goes : (Parser.firstOfAfter failed (parser :: others) input).verdict =
        (Parser.firstOfAfter (some (input.surroundings.errorPolicy.pick failed error)) others
          input).verdict := by
      rw [Parser.firstOfAfter, Outcome.verdict_orElse, rejected]
    exact ((tail _).congr goes).mono fun idles => by rw [idles, Bool.or_true]

/-- A parser with a default answers where the parser does. -/
theorem optional (answers : parser.Answers input idle) (default : α) :
    (parser.optional default).Answers input true := by
  have choice : (parser.optional default).Answers input (idle || (true || false)) :=
    answers.firstOfAfter_cons fun _ => (pure default).firstOfAfter_cons fun _ => .reject rfl
  rwa [Bool.true_or, Bool.or_true] at choice

/-- Looking ahead answers where its parser does. -/
theorem lookAhead (answers : parser.Answers input idle) :
    parser.lookAhead.Answers input true := by
  cases answers with
  | @accept value rest accepted moves =>
    have stays : (parser.lookAhead input).verdict = .accept value input := by
      rw [Parser.lookAhead, Outcome.verdict_andThen, accepted]
    exact .accept stays (.inl ⟨rfl, rfl⟩)
  | reject rejected =>
    exact .reject (by rw [Parser.lookAhead, Outcome.verdict_andThen, rejected])

/-- A negation answers where its parser does. -/
theorem not [Shown α] (answers : parser.Answers input idle) : parser.not.Answers input true := by
  cases answers with
  | accept accepted moves => exact .reject (by rw [verdict_not, accepted])
  | reject rejected => exact .accept (by rw [verdict_not, rejected]) (.inl ⟨rfl, rfl⟩)

/-- A named parser answers where the parser does. -/
theorem named (answers : parser.Answers input idle) (name : String) :
    (Parser.named name parser).Answers input idle := by
  cases answers with
  | accept accepted moves => exact .accept (by rw [verdict_named, accepted]) moves
  | reject rejected => exact .reject (by rw [verdict_named, rejected])

/-! ## Repetition -/

/-- A repetition with more runs allowed than symbols remain answers where its parser does: every run
but the last uses up a symbol. -/
theorem foldUpTo (f : σ → α → σ) {bound : Nat} (enough : input.remaining < bound)
    (here : parser.Answers input idle)
    (later : ∀ rest, rest.remaining < input.remaining → parser.Answers rest idle)
    (records : List Record) (state : σ) (runs : Nat) :
    Answers (parser.foldUpTo f bound records state runs) input true := by
  induction bound generalizing input records state runs with
  | zero => omega
  | succ bound ih =>
    cases here with
    | @accept value rest accepted moves =>
      by_cases same : rest.cursor = input.cursor
      · have ends : (parser.foldUpTo f (bound + 1) records state runs input).verdict =
            .accept (f state value, runs + 1) rest := by
          rw [verdict_foldUpTo_succ, accepted]
          exact if_pos same
        exact .accept ends (moves.imp_left fun stays => ⟨stays.1, rfl⟩)
      · rcases moves with ⟨rfl, -⟩ | shorter
        · exact absurd rfl same
        · have answers := ih (by omega) (later rest shorter)
            (fun last fewer => later last (fewer.trans shorter))
            (records ++ (parser input).records) (f state value) (runs + 1)
          refine answers.further shorter ?_
          rw [verdict_foldUpTo_succ, accepted]
          exact if_neg same
    | reject rejected =>
      exact .accept (by rw [verdict_foldUpTo_succ, rejected]) (.inl ⟨rfl, rfl⟩)

/-- A fold answers where its parser does. -/
theorem foldl (state : σ) (f : σ → α → σ) (here : parser.Answers input idle)
    (later : ∀ rest, rest.remaining < input.remaining → parser.Answers rest idle) :
    (parser.foldl state f).Answers input true :=
  have runs : (parser.foldRuns f state).Answers input true :=
    (foldUpTo f (Nat.lt_succ_self _) here later [] state 0).congr rfl
  runs.map Prod.fst

/-- A parser and a fold after it answer where both parsers do. -/
theorem thenFoldl {whole : Parser σ} {first : Parser β} {state : β → σ} {f : σ → α → σ}
    (shape : whole input = (first input).andThen fun value => parser.foldl (state value) f)
    (head : first.Answers input idle) (here : idle = true → parser.Answers input idle')
    (later : ∀ rest, rest.remaining < input.remaining → parser.Answers rest idle') :
    whole.Answers input idle := by
  have answers := head.andThen shape (fun idles value => foldl (state value) f (here idles) later)
    (fun value rest shorter => foldl (state value) f (later rest shorter)
      fun last fewer => later last (fewer.trans shorter))
  rwa [Bool.and_true] at answers

/-- A number of runs answers where its parser does; no runs are idle. -/
theorem iterate (count : Nat) (here : count ≠ 0 → parser.Answers input idle)
    (later : ∀ rest, rest.remaining < input.remaining → parser.Answers rest idle) :
    (parser.iterate count).Answers input (count == 0 || idle) := by
  induction count generalizing input with
  | zero => exact pure []
  | succ count ih =>
    have once := here (Nat.succ_ne_zero count)
    have answers : (parser.iterate (count + 1)).Answers input (idle && (count == 0 || idle)) :=
      once.andThen rfl (fun _ _ => (ih (fun _ => once) later).map _)
        (fun _ rest shorter => (ih (fun _ => later rest shorter)
          fun last fewer => later last (fewer.trans shorter)).map _)
    exact answers.mono fun idles => by simp_all

end Answers

end Parser

/-- Whether a term, apart from its parts, is closed over a grammar: it refers to a rule that
there is, and does not reject without an error. -/
def Term.IsClosed (grammar : Grammar) : Term → Prop
  | .ref name => (grammar.rule? name).isSome = true
  | .rejectNothing => False
  | _ => True

/-- Whether the rules that a term may run first answer an input, and all rules of the grammar answer
wherever fewer symbols remain. -/
structure Term.Ready (grammar : Grammar) (rule : String → Parser Host) (idle : String → Bool)
    (term : Term) (input : Input) : Prop where
  /-- The rules that may be run first answer here. -/
  here : ∀ name ∈ term.leading idle, (grammar.rule? name).isSome = true →
    (rule name).Answers input (idle name)
  /-- All rules answer where fewer symbols remain. -/
  later : ∀ rest, rest.remaining < input.remaining →
    ∀ name, (grammar.rule? name).isSome = true → (rule name).Answers rest (idle name)

namespace Term

variable {grammar : Grammar} {rule : String → Parser Host} {idle : String → Bool}
variable {term part first second third : Term} {terms : List Term} {input rest : Input}

/-- A term that runs no other rules first is ready as well. -/
theorem Ready.sub (ready : term.Ready grammar rule idle input)
    (fewer : part.leading idle ⊆ term.leading idle) : part.Ready grammar rule idle input :=
  ⟨fun name member => ready.here name (fewer member), ready.later⟩

/-- The part that a term starts with is ready. -/
theorem Ready.head {more : List String} (ready : term.Ready grammar rule idle input)
    (leads : term.leading idle = part.leading idle ++ more) :
    part.Ready grammar rule idle input := by
  apply ready.sub
  rw [leads]
  exact List.subset_append_left _ _

/-- The part that a term goes on with after an idle start is ready. -/
theorem Ready.tail {before : List String} {idles : Bool}
    (ready : term.Ready grammar rule idle input)
    (leads : term.leading idle = before ++ if idles then part.leading idle else [])
    (start : idles = true) : part.Ready grammar rule idle input := by
  apply ready.sub
  rw [leads, if_pos start]
  exact List.subset_append_right _ _

/-- Where fewer symbols remain, every term is ready. -/
theorem Ready.moved (ready : term.Ready grammar rule idle input)
    (shorter : rest.remaining < input.remaining) : part.Ready grammar rule idle rest :=
  ⟨fun name _ => ready.later rest shorter name,
    fun last fewer => ready.later last (fewer.trans shorter)⟩

/-- Whether a term answers every input it is ready for. -/
def Reliable (grammar : Grammar) (rule : String → Parser Host) (idle : String → Bool)
    (term : Term) : Prop :=
  ∀ ⦃input⦄, term.Ready grammar rule idle input →
    (term.parser rule).Answers input (term.mayBeIdle idle)

namespace Reliable

/-- A term that runs two parts in order is ready for the first, for the second after an idle first,
and for the second where fewer symbols remain. -/
theorem inOrder (head : first.Reliable grammar rule idle) (tail : second.Reliable grammar rule idle)
    (leads : term.leading idle = first.leading idle ++
      if first.mayBeIdle idle then second.leading idle else [])
    (ready : term.Ready grammar rule idle input) :
    (first.parser rule).Answers input (first.mayBeIdle idle) ∧
    (first.mayBeIdle idle = true →
      (second.parser rule).Answers input (second.mayBeIdle idle)) ∧
    ∀ rest, rest.remaining < input.remaining →
      (second.parser rule).Answers rest (second.mayBeIdle idle) :=
  ⟨head (ready.head leads), fun idles => tail (ready.tail leads idles),
    fun _ shorter => tail (ready.moved shorter)⟩

/-- Three terms in order answer where each does when it is ready. -/
theorem seq3 (head : first.Reliable grammar rule idle) (middle : second.Reliable grammar rule idle)
    (tail : third.Reliable grammar rule idle)
    (ready : (Term.seq3 first second third).Ready grammar rule idle input) :
    (Parser.seq3 (first.parser rule) (second.parser rule) (third.parser rule)).Answers input
      (first.mayBeIdle idle && second.mayBeIdle idle && third.mayBeIdle idle) := by
  have others (idles : first.mayBeIdle idle = true) :
      (Term.seq2 second third).Ready grammar rule idle input := ready.tail rfl idles
  have two := (head (ready.head rfl)).seq2 (fun idles => middle ((others idles).head rfl))
    fun _ shorter => middle (ready.moved shorter)
  apply two.andThen rfl
  · intro idles value
    obtain ⟨idles, idles'⟩ := Bool.and_eq_true_iff.mp idles
    exact (tail ((others idles).tail rfl idles')).map _
  · exact fun value rest shorter => (tail (ready.moved shorter)).map _

/-- Terms in order answer where each does when it is ready. -/
theorem seq (parts : ∀ part ∈ terms, part.Reliable grammar rule idle)
    (ready : (Term.seq terms).Ready grammar rule idle input) :
    (Parser.seq (Term.parsers rule terms)).Answers input (Term.allMayBeIdle idle terms) := by
  induction terms generalizing input with
  | nil => exact .pure []
  | cons first others ih =>
    obtain ⟨head, tail⟩ := List.forall_mem_cons.mp parts
    have onwards (idles : first.mayBeIdle idle = true) :
        (Term.seq others).Ready grammar rule idle input := ready.tail rfl idles
    exact (head (ready.head rfl)).seq_cons (fun idles => ih tail (onwards idles))
      fun rest shorter => ih tail (ready.moved shorter)

/-- Terms instead of each other answer where each does when it is ready. -/
theorem firstOfAfter (failed : Option ParseError)
    (parts : ∀ part ∈ terms, part.Reliable grammar rule idle)
    (ready : (Term.firstOf terms).Ready grammar rule idle input) :
    (Parser.firstOfAfter failed (Term.parsers rule terms)).Answers input
      (Term.someMayBeIdle idle terms) := by
  induction terms generalizing failed with
  | nil => exact .reject rfl
  | cons first others ih =>
    obtain ⟨head, tail⟩ := List.forall_mem_cons.mp parts
    have others : (Term.firstOf others).Ready grammar rule idle input :=
      ready.sub (List.subset_append_right (first.leading idle) _)
    exact (head (ready.head rfl)).firstOfAfter_cons fun failed => ih failed tail others

end Reliable

/-- A closed term answers every input it is ready for. -/
theorem reliable_of_every (closed : term.Every (IsClosed grammar)) :
    term.Reliable grammar rule idle := by
  induction closed with
  | @intro term here inside parts =>
  intro input ready
  -- A term with one part answers with it: here when both run the same rules first, and always where
  -- fewer symbols remain.
  have only {part : Term} (single : term.parts = [part])
      (same : part.leading idle = term.leading idle) :
      (part.parser rule).Answers input (part.mayBeIdle idle) := by
    have reliable := parts part (by simp [single])
    exact reliable (ready.sub (by rw [same]; exact List.Subset.refl _))
  have again {part : Term} (member : part ∈ term.parts) (rest : Input)
      (shorter : rest.remaining < input.remaining) :
      (part.parser rule).Answers rest (part.mayBeIdle idle) :=
    parts part member (ready.moved shorter)
  cases term with
  | oneChar => exact Parser.Answers.oneChar.map _
  | lit | range | digit | letter | lowerLetter | upperLetter | space | alwaysSymbol =>
    exact (Parser.Answers.oneChar.acceptWhen _ _ _).map _
  | digitValue => exact (Parser.Answers.digit.map _).map _
  | litString text => exact (Parser.Answers.litStringFrom text text.toList).map _
  | spaces =>
    exact (Parser.Answers.space.thenFoldl rfl (fun _ => .space) fun _ _ => .space).map _
  | int =>
    have digits : (Parser.many1 Parser.digit).Answers input false :=
      Parser.Answers.digit.thenFoldl rfl (fun _ => .digit) fun _ _ => .digit
    exact (digits.mapOrRefuse _).map _
  | pure value => exact .pure value
  | fail kind args => exact .reject rfl
  | rejectNothing => exact here.elim
  | always part value => exact (only rfl rfl).map _
  | token part =>
    have blanks (input : Input) : (Parser.any Parser.space).Answers input true :=
      .foldl _ _ .space fun _ _ => .space
    have answers := (only rfl rfl).seq2 (fun _ => blanks input) fun rest _ => blanks rest
    rw [Bool.and_true] at answers
    exact answers.map _
  | transform part f => exact (only rfl rfl).map f
  | transformOrRefuse part f => exact (only rfl rfl).mapOrRefuse f
  | acceptWhen part test kind args => exact (only rfl rfl).acceptWhen test kind args
  | entireInput part => exact (only rfl rfl).entireInput
  | entireInputWith part kind args => exact (only rfl rfl).entireInputWith kind args
  | named name part => exact (only rfl rfl).named name
  | optional part default => exact (only rfl rfl).optional default
  | lookAhead part => exact (only rfl rfl).lookAhead
  | not part => exact (only rfl rfl).not.map _
  | ref name => exact ready.here name (List.mem_singleton_self name) here
  | seq terms => exact (Reliable.seq parts ready).map _
  | nthOf index terms => exact (Reliable.seq parts ⟨ready.here, ready.later⟩).map _
  | seq2 first second | left first second | right first second =>
    obtain ⟨head, tail⟩ := List.forall_mem_cons.mp parts
    obtain ⟨once, here, later⟩ := head.inOrder (List.forall_mem_singleton.mp tail) rfl ready
    exact (once.seq2 here later).map _
  | seq3 first second third =>
    obtain ⟨head, tail⟩ := List.forall_mem_cons.mp parts
    obtain ⟨middle, tail⟩ := List.forall_mem_cons.mp tail
    exact (head.seq3 middle (List.forall_mem_singleton.mp tail) ready).map _
  | firstOf terms => exact Reliable.firstOfAfter none parts ready
  | many part | any part =>
    exact (Parser.Answers.foldl _ _ (only rfl rfl) (again List.mem_cons_self)).map _
  | foldl part initial f =>
    exact .foldl _ _ (only rfl rfl) (again List.mem_cons_self)
  | many1 part | any1 part =>
    exact ((only rfl rfl).thenFoldl rfl (fun _ => only rfl rfl) (again List.mem_cons_self)).map _
  | foldl1 part initial f =>
    exact (only rfl rfl).thenFoldl rfl (fun _ => only rfl rfl) (again List.mem_cons_self)
  | foldlFrom part first f =>
    obtain ⟨head, tail⟩ := List.forall_mem_cons.mp parts
    obtain ⟨once, here, later⟩ := head.inOrder (List.forall_mem_singleton.mp tail) rfl ready
    exact once.thenFoldl rfl here later
  | iterate part count =>
    refine (Parser.Answers.iterate count.toNat (fun some => ?_) (again List.mem_cons_self)).map _
    exact only rfl (if_neg some).symm

end Term

namespace Grammar

variable {grammar : Grammar} {term : Term}

/-- The rules of a grammar without left recursion answer at a depth above the number of rules for
each symbol that remains and the rank of the rule. -/
theorem ruleParser_answers (acyclic : grammar.NotLeftRecursive)
    (closed : grammar.Every (Term.IsClosed grammar)) {depth : Nat} {name : String} {input : Input}
    (supplied : (grammar.rule? name).isSome = true)
    (deep : grammar.rules.length * input.remaining + grammar.rank name < depth) :
    (grammar.ruleParser depth name).Answers input (grammar.mayBeIdle name) := by
  induction depth generalizing name input with
  | zero => omega
  | succ depth ih =>
    obtain ⟨body, found⟩ := Option.isSome_iff_exists.mp supplied
    have ready : body.Ready grammar (grammar.ruleParser depth) grammar.mayBeIdle input := by
      constructor
      · -- No symbol has been used up, so the rank has to fall.
        intro other leads supplied
        obtain ⟨body', found'⟩ := Option.isSome_iff_exists.mp supplied
        have lower := rank_lt_of_mayEnter acyclic ⟨body, found, leads⟩ found'
        exact ih supplied (by omega)
      · -- A symbol less to go makes room for every rank.
        intro rest shorter other supplied
        obtain ⟨body', found'⟩ := Option.isSome_iff_exists.mp supplied
        have ranked := rank_lt_length acyclic found'
        have room : grammar.rules.length * (rest.remaining + 1) ≤
            grammar.rules.length * input.remaining := Nat.mul_le_mul_left _ shorter
        rw [Nat.mul_succ] at room
        exact ih supplied (by omega)
    rw [ruleParser_succ found]
    exact (Term.reliable_of_every (closed name body found) ready).mono (mayBeIdle_of_body found)

/-- In a grammar without left recursion every term accepts or rejects every input. Its repetitions
may repeat terms that use up no symbols. -/
theorem parser_decides_of_notLeftRecursive (acyclic : grammar.NotLeftRecursive)
    (rules : grammar.Every (Term.IsClosed grammar)) (closed : term.Every (Term.IsClosed grammar))
    (input : Input) :
    (∃ value rest, (grammar.parser term input).verdict = .accept value rest) ∨
      ∃ error, (grammar.parser term input).verdict = .reject error := by
  have answers {rest : Input} (near : rest.remaining ≤ input.remaining) {name : String}
      (supplied : (grammar.rule? name).isSome = true) :
      (grammar.ruleParser (grammar.depthOn input) name).Answers rest (grammar.mayBeIdle name) := by
    obtain ⟨body, found⟩ := Option.isSome_iff_exists.mp supplied
    apply ruleParser_answers acyclic rules supplied
    have ranked := rank_lt_length acyclic found
    have room := Nat.mul_le_mul_left grammar.rules.length near
    rw [depthOn, Nat.mul_succ]
    omega
  have ready : term.Ready grammar (grammar.ruleParser (grammar.depthOn input)) grammar.mayBeIdle
      input :=
    ⟨fun name _ supplied => answers (Nat.le_refl _) supplied,
      fun rest shorter name supplied => answers (Nat.le_of_lt shorter) supplied⟩
  exact (Term.reliable_of_every closed ready).decided

/-- Sums of numbers and of sums in brackets, with blanks in front; the blanks are repeated although
each may be missing. -/
def sums : Grammar :=
  ⟨[("sum", .seq2 (.ref "atom") (.many (.right (.lit 43) (.ref "atom")))),
    ("atom", .right (.many (.optional .space .unit))
      (.firstOf [.int, .right (.lit 40) (.left (.ref "sum") (.lit 41))]))]⟩

/-- Sums are decided: a sum runs atoms first, and an atom no rule. -/
theorem parser_decides_of_notLeftRecursive_sums :
    sums.NotLeftRecursive ∧ sums.Every (Term.IsClosed sums) ∧
    (Term.entireInput (.ref "sum")).Every (Term.IsClosed sums) ∧
    ((∃ value rest, (sums.parser (.entireInput (.ref "sum"))
        (Input.ofSymbols ['1', '+', ' ', '(', '2', '+', '3', ')'] {})).verdict =
          .accept value rest) ∨
      ∃ error, (sums.parser (.entireInput (.ref "sum"))
        (Input.ofSymbols ['1', '+', ' ', '(', '2', '+', '3', ')'] {})).verdict =
          .reject error) := by
  have acyclic : sums.NotLeftRecursive := by
    apply notLeftRecursive_of_rank fun name => if name = "sum" then 1 else 0
    rintro name other ⟨body, found, leads⟩
    have member := mem_rules_of_rule? found
    simp only [sums, List.mem_cons, List.not_mem_nil, or_false, Prod.mk.injEq] at member
    rcases member with ⟨rfl, rfl⟩ | ⟨rfl, rfl⟩
    · obtain rfl := List.mem_singleton.mp leads
      decide
    · exact absurd leads List.not_mem_nil
  have sum : (Term.seq2 (.ref "atom") (.many (.right (.lit 43) (.ref "atom")))).Every
      (Term.IsClosed sums) :=
    .pair rfl trivial (.leaf rfl rfl)
      (.single rfl trivial (.pair rfl trivial (.leaf rfl trivial) (.leaf rfl rfl)))
  have bracketed : (Term.right (.lit 40) (.left (.ref "sum") (.lit 41))).Every
      (Term.IsClosed sums) :=
    .pair rfl trivial (.leaf rfl trivial) (.pair rfl trivial (.leaf rfl rfl) (.leaf rfl trivial))
  have atom : (Term.right (.many (.optional .space .unit))
      (.firstOf [.int, .right (.lit 40) (.left (.ref "sum") (.lit 41))])).Every
      (Term.IsClosed sums) :=
    .pair rfl trivial (.single rfl trivial (.single rfl trivial (.leaf rfl trivial)))
      (.pair rfl trivial (.leaf rfl trivial) bracketed)
  have rules : sums.Every (Term.IsClosed sums) :=
    every_of_forall_mem (List.forall_mem_cons.mpr ⟨sum, List.forall_mem_singleton.mpr atom⟩)
  have closed : (Term.entireInput (.ref "sum")).Every (Term.IsClosed sums) :=
    .single rfl trivial (.leaf rfl rfl)
  exact ⟨acyclic, rules, closed, parser_decides_of_notLeftRecursive acyclic rules closed _⟩

end Grammar

end GrammarKit
