import GrammarKit.Proofs.Chronicle
import Mathlib.Logic.Relation
/-!
# What a trace looks like

The trace of a parse that comes to a verdict is bracketed (`Grammar.parser_trace_bracketed`): every
start of a named parser has its end, and in between there is the bracketed trace of just that run.
The end is where the run left off, and not before the start if the run accepted. A parse that is not
traced writes nothing at all.
-/

namespace GrammarKit

open Input (Ahead)

/-- Whether a place does not come after another, neither by the symbols before it nor as it is
displayed. -/
structure Location.UpTo (start finish : Location) : Prop where
  /-- No more symbols come before the first place. -/
  cursor : start.cursor ≤ finish.cursor
  /-- The first place is on an earlier line, or on the same one and not further to the right. -/
  displayed : start.line < finish.line ∨ start.line = finish.line ∧ start.column ≤ finish.column

namespace Location.UpTo

variable {start middle finish : Location}

/-- A place does not come after itself. -/
theorem refl (place : Location) : place.UpTo place := ⟨Int.le_refl _, .inr ⟨rfl, Int.le_refl _⟩⟩

/-- A place that does not come after one that does not come after a third does not come after the
third. -/
theorem trans (first : start.UpTo middle) (second : middle.UpTo finish) : start.UpTo finish := by
  obtain ⟨cursor, displayed⟩ := first
  obtain ⟨cursor', displayed'⟩ := second
  exact ⟨by omega, by omega⟩

end Location.UpTo

/-- Past a symbol does not come before the symbol. -/
theorem Input.upTo_past (input : Input) (symbol : Char) :
    input.location.UpTo (input.past symbol).location := by
  unfold Input.past
  split
  · exact ⟨by dsimp [Input.location]; omega, .inl (by dsimp [Input.location]; omega)⟩
  · exact ⟨by dsimp [Input.location]; omega, .inr ⟨rfl, by dsimp [Input.location]; omega⟩⟩

/-- What is ahead does not come before the start. -/
theorem Input.Ahead.upTo {start input : Input} (ahead : Ahead start input) :
    start.location.UpTo input.location := by
  obtain ⟨count, enough, rfl⟩ := ahead
  clear enough
  fun_induction Input.advance count start with
  | case1 => exact .refl _
  | case2 count start symbol found ih => exact (start.upTo_past symbol).trans ih
  | case3 => exact .refl _

/-- Whether records are those of calls one after the other. The records of a call are the start of
the call, the records of its run, which are those of calls again, and its end, which says where the
run left off. -/
inductive Bracketed (called : String → Input → Outcome Host → Prop) : List Record → Prop where
  /-- There are no calls. -/
  | nil : Bracketed called []
  /-- There is a call, and there are those after it. -/
  | call {name : String} {start : Input} {outcome : Outcome Host} {accepted : Bool}
      {finish : Location} {later : List Record}
      (run : called name start outcome)
      (ended : outcome.verdict.finish? = some (accepted, finish))
      (onwards : accepted = true → start.location.UpTo finish)
      (inside : Bracketed called outcome.records)
      (after : Bracketed called later) :
      Bracketed called
        (.enter name start.location :: (outcome.records ++ .leave name accepted finish :: later))

/-- Calls after calls are calls one after the other. -/
theorem Bracketed.append {called : String → Input → Outcome Host → Prop}
    {first second : List Record} (head : Bracketed called first) (tail : Bracketed called second) :
    Bracketed called (first ++ second) := by
  induction head with
  | nil => exact tail
  | call run ended onwards inside after insideIh afterIh =>
    simpa only [List.cons_append, List.append_assoc] using
      Bracketed.call run ended onwards inside afterIh

/-- Whether a term is another or a part of it, of its parts, of their parts and so on. -/
def Term.Within : Term → Term → Prop :=
  Relation.ReflTransGen fun part whole => part ∈ whole.parts

/-- Throughout a term there are only terms within it. -/
theorem Term.every_within (whole : Term) : whole.Every (·.Within whole) := by
  have downwards (term : Term) (within : term.Within whole) : term.Every (·.Within whole) := by
    induction term using induction_parts with
    | step term ih => exact .intro within fun part member => ih part member (.head member within)
  exact downwards whole .refl

namespace Grammar

variable {grammar : Grammar} {term : Term} {input : Input}

/-- Whether a term is within another or within the body of a rule. -/
def Occurs (grammar : Grammar) (term part : Term) : Prop :=
  part.Within term ∨ ∃ rule body, grammar.rule? rule = some body ∧ part.Within body

/-- What a named part of a term or of a rule comes to from some input ahead of the one at which
parsing starts. -/
def Calls (grammar : Grammar) (term : Term) (input : Input) (name : String) (start : Input)
    (outcome : Outcome Host) : Prop :=
  ∃ body depth, grammar.Occurs term (.named name body) ∧ Ahead input start ∧
    outcome = body.parser (grammar.ruleParser depth) start

end Grammar

namespace Chronicle

variable {grammar : Grammar} {term part : Term} {input : Input} {depth : Nat}

/-- The calls that parsing from an input makes, as long as parsing does not stop. -/
def calls (grammar : Grammar) (term : Term) (input : Input) : Chronicle where
  onInput := Ahead input
  onRecords := Bracketed (grammar.Calls term input)
  stopped := False
  past ahead found := ahead.trans (.past found)
  nothing := .nil
  append := .append

/-- A traced name writes one call around the calls of the term inside. -/
theorem names_calls (traced : input.surroundings.trace = true)
    (occurs : grammar.Occurs term part) :
    (calls grammar term input).Names (grammar.ruleParser depth) part := by
  cases part with
  | named name body =>
    intro kept start ahead
    have on : start.surroundings.trace = true := by rw [ahead.surroundings_eq, traced]
    have inner := kept ahead
    unfold Parser.named
    generalize ran : body.parser (grammar.ruleParser depth) start = outcome at inner ⊢
    have run : grammar.Calls term input name start outcome :=
      ⟨body, depth, occurs, ahead, ran.symm⟩
    simp only [on, ↓reduceIte, List.cons_append, List.nil_append]
    cases inner with
    | accept written value rests =>
      have further : Ahead start _ := Grammar.term_accept_ahead (congrArg (·.verdict) ran)
      exact .accept (Bracketed.call run rfl (fun _ => further.upTo) written .nil) value rests
    | reject written error =>
      exact .reject (Bracketed.call run rfl (fun accepted => nomatch accepted) written .nil) _
    | fault written fault => exact .fault False.elim fault
  | _ => trivial

/-- Runs that are not traced and write nothing, whether they stop or not. -/
def silence : Chronicle where
  onInput input := input.surroundings.trace = false
  onRecords records := records = []
  stopped := True
  past {input symbol} off _ := by rwa [Input.past_surroundings]
  nothing := rfl
  append := by
    rintro _ _ rfl rfl
    rfl

/-- A name that is not traced writes nothing. -/
theorem names_silence (rule : String → Parser Host) (part : Term) : silence.Names rule part := by
  cases part with
  | named name body =>
    intro kept input off
    have inner := kept off
    unfold Parser.named
    generalize body.parser rule input = outcome at inner ⊢
    simp only [show input.surroundings.trace = false from off, Bool.false_eq_true, ↓reduceIte,
      List.nil_append, List.append_nil]
    cases inner with
    | accept written value rests => exact .accept written value rests
    | reject written error => exact .reject written _
    | fault written fault => exact .fault written fault
  | _ => trivial

end Chronicle

namespace Grammar

variable {grammar : Grammar} {term : Term} {input : Input}

/-- A traced run over rules of any depth that comes to a verdict writes calls. -/
theorem records_bracketed (traced : input.surroundings.trace = true) (depth : Nat)
    (returns : ∀ fault, (term.parser (grammar.ruleParser depth) input).verdict ≠ .fault fault) :
    Bracketed (grammar.Calls term input)
      (term.parser (grammar.ruleParser depth) input).records := by
  have inRules (depth : Nat) : grammar.Every
      ((Chronicle.calls grammar term input).Names (grammar.ruleParser depth)) :=
    fun name body found => body.every_within.mono fun part within =>
      Chronicle.names_calls traced (.inr ⟨name, body, found, within⟩)
  have inTerm : term.Every
      ((Chronicle.calls grammar term input).Names (grammar.ruleParser depth)) :=
    term.every_within.mono fun part within => Chronicle.names_calls traced (.inl within)
  have kept := Chronicle.term (Chronicle.ruleParser inRules depth) inTerm (.refl input)
  generalize term.parser (grammar.ruleParser depth) input = outcome at returns kept ⊢
  cases kept with
  | accept written => exact written
  | reject written => exact written
  | fault written fault => exact absurd rfl (returns fault)

/-- A run over rules of any depth that is not traced writes nothing. -/
theorem records_eq_nil (off : input.surroundings.trace = false) (depth : Nat) :
    (term.parser (grammar.ruleParser depth) input).records = [] := by
  have inRules (depth : Nat) : grammar.Every
      (Chronicle.silence.Names (grammar.ruleParser depth)) :=
    fun name body found => Term.Every.of_forall (Chronicle.names_silence _) body
  have kept := Chronicle.term (Chronicle.ruleParser inRules depth)
    (Term.Every.of_forall (Chronicle.names_silence _) term) off
  generalize term.parser (grammar.ruleParser depth) input = outcome at kept ⊢
  cases kept with
  | accept written => exact written
  | reject written => exact written
  | fault written => exact written trivial

/-- The records of a traced parse that comes to a verdict are those of calls, properly nested: a
call starts at the input that a named parser started from, and ends where its run left off, which
for an accepting run is not before the start and for a rejecting one is the place of the error.
Naming the term puts exactly one call around them. A parse that is not traced writes nothing. -/
theorem parser_trace_bracketed (grammar : Grammar) (term : Term) (input : Input) :
    (input.surroundings.trace = true →
      (∀ fault, (grammar.parser term input).verdict ≠ .fault fault) →
      Bracketed (grammar.Calls term input) (grammar.parser term input).records ∧
      ∀ name, ∃ accepted finish,
        (grammar.parser term input).verdict.finish? = some (accepted, finish) ∧
        (grammar.parser (.named name term) input).records =
          .enter name input.location ::
            ((grammar.parser term input).records ++ [.leave name accepted finish])) ∧
    (input.surroundings.trace = false → (grammar.parser term input).records = []) := by
  refine ⟨fun traced returns => ⟨records_bracketed traced _ returns, fun name => ?_⟩,
    fun off => records_eq_nil off _⟩
  have named : grammar.parser (.named name term) input =
      Parser.named name (grammar.parser term) input := rfl
  rw [named, Parser.named]
  cases decided : (grammar.parser term input).verdict with
  | accept value rest => exact ⟨true, rest.location, rfl, by simp [traced, Verdict.finish?]⟩
  | reject error => exact ⟨false, error.location, rfl, by simp [traced, Verdict.finish?]⟩
  | fault fault => exact absurd decided (returns fault)

/-- A letter in parentheses, of which the closing ones may be missing. -/
def parentheses : Grammar :=
  ⟨[("item", .named "item" (.firstOf
    [.seq [.lit 40, .ref "item", .lit 41], .right (.lit 40) (.ref "item"), .lit 120]))]⟩

/-- The trace of a letter after a parenthesis that nothing closes: the letter is read twice. -/
theorem parser_trace_bracketed_parentheses :
    let input := Input.ofSymbols ['(', 'x'] { trace := true }
    let records := (parentheses.parser (.ref "item") input).records
    records =
      [.enter "item" ⟨0, 1, 1⟩,
        .enter "item" ⟨1, 1, 2⟩, .leave "item" true ⟨2, 1, 3⟩,
        .enter "item" ⟨1, 1, 2⟩, .leave "item" true ⟨2, 1, 3⟩,
      .leave "item" true ⟨2, 1, 3⟩] ∧
    Bracketed (parentheses.Calls (.ref "item") input) records := by
  intro input records
  have returns (fault : ParseFault) :
      (parentheses.parser (.ref "item") input).verdict ≠ .fault fault :=
    fun stopped => Option.some_ne_none (true, Location.mk 2 1 3) (congrArg (·.finish?) stopped)
  have nested := ((parser_trace_bracketed parentheses (.ref "item") input).1 rfl returns).1
  exact ⟨by decide +kernel, nested⟩

end Grammar

end GrammarKit
