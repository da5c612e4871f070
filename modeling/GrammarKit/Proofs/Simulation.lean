import GrammarKit.Proofs.Term
import GrammarKit.Proofs.Verdict
import Mathlib.Data.List.Forall2
/-!
# Two runs of one parser

A simulation says which inputs and which errors of two runs correspond. Its laws are about the few
things that parsers do with inputs and errors: look at the symbol under the cursor, move past it,
ask whether a repetition has moved, make an error at the cursor, choose between errors and name
them. From these laws alone every combinator carries corresponding inputs to corresponding verdicts,
and so does every term (`Simulation.term`), whatever its rules do, as long as they do so too. Each
theorem about two runs of a grammar is then the choice of a simulation and a proof of its laws.
-/

namespace GrammarKit

/-- Which inputs and errors of two runs correspond, and why parsers keep them so. -/
structure Simulation where
  /-- Whether two inputs correspond. -/
  onInput : Input → Input → Prop
  /-- Whether two errors correspond. -/
  onError : ParseError → ParseError → Prop
  /-- Whether the first run may be cut short, having met the bound on the depth of rules. -/
  cutShort : Prop
  /-- The same symbol is under both cursors. -/
  peek : ∀ {left right}, onInput left right → left.peek? = right.peek?
  /-- Equally many symbols remain. -/
  remaining : ∀ {left right}, onInput left right → left.remaining = right.remaining
  /-- Moving past the symbol under the cursor keeps inputs corresponding. -/
  past : ∀ {left right symbol}, onInput left right → left.peek? = some symbol →
    onInput (left.past symbol) (right.past symbol)
  /-- One run has moved exactly when the other has. -/
  moved : ∀ {left right left' right'}, onInput left right → onInput left' right' →
    (left'.cursor = left.cursor ↔ right'.cursor = right.cursor)
  /-- Errors made at corresponding cursors correspond. -/
  fail : ∀ {left right} kind args, onInput left right →
    onError (left.fail kind args) (right.fail kind args)
  /-- Choosing among corresponding errors gives corresponding errors. -/
  pick : ∀ {left right failed failed' error error'}, onInput left right →
    Option.Rel onError failed failed' → onError error error' →
    onError (left.surroundings.errorPolicy.pick failed error)
      (right.surroundings.errorPolicy.pick failed' error')
  /-- Naming keeps errors corresponding. -/
  within : ∀ {error error'} name, onError error error' →
    onError (error.within name) (error'.within name)

namespace Simulation

variable {α β γ σ : Type} {S : Simulation}

/-- Whether two verdicts correspond: the same value at corresponding inputs, corresponding errors,
or the same fault, unless the first run was cut short. -/
inductive OnVerdict (S : Simulation) : Verdict α → Verdict α → Prop where
  /-- Both accept. -/
  | accept (value : α) {rest rest' : Input} (related : S.onInput rest rest') :
    OnVerdict S (.accept value rest) (.accept value rest')
  /-- Both reject. -/
  | reject {error error' : ParseError} (related : S.onError error error') :
    OnVerdict S (.reject error) (.reject error')
  /-- Both stop. -/
  | fault (fault : ParseFault) : OnVerdict S (.fault fault) (.fault fault)
  /-- The first run was cut short. -/
  | cut (allowed : S.cutShort) (verdict : Verdict α) : OnVerdict S (.fault .endless) verdict

/-- Whether two parsers give corresponding verdicts on corresponding inputs. -/
def OnParser (S : Simulation) (first second : Parser α) : Prop :=
  ∀ ⦃left right⦄, S.onInput left right → S.OnVerdict (first left).verdict (second right).verdict

/-- Whether two lists of parsers correspond parser by parser. -/
abbrev OnParsers (S : Simulation) : List (Parser α) → List (Parser α) → Prop :=
  List.Forall₂ S.OnParser

/-! ## Going on after a verdict -/

/-- Corresponding outcomes go on to corresponding outcomes after an accepted value. -/
theorem andThen {first second : Outcome α} {next next' : α → Input → Outcome β}
    (related : S.OnVerdict first.verdict second.verdict)
    (after : ∀ value {rest rest'}, S.onInput rest rest' →
      S.OnVerdict (next value rest).verdict (next' value rest').verdict) :
    S.OnVerdict (first.andThen next).verdict (second.andThen next').verdict := by
  rw [Outcome.verdict_andThen, Outcome.verdict_andThen]
  generalize first.verdict = verdict, second.verdict = verdict' at related ⊢
  cases related with
  | accept value rests => exact after value rests
  | reject errors => exact .reject errors
  | fault fault => exact .fault fault
  | cut allowed => exact .cut allowed _

/-- Corresponding outcomes go on to corresponding outcomes after an error. -/
theorem orElse {first second : Outcome α} {next next' : ParseError → Outcome α}
    (related : S.OnVerdict first.verdict second.verdict)
    (after : ∀ {error error'}, S.onError error error' →
      S.OnVerdict (next error).verdict (next' error').verdict) :
    S.OnVerdict (first.orElse next).verdict (second.orElse next').verdict := by
  rw [Outcome.verdict_orElse, Outcome.verdict_orElse]
  generalize first.verdict = verdict, second.verdict = verdict' at related ⊢
  cases related with
  | accept value rests => exact .accept value rests
  | reject errors => exact after errors
  | fault fault => exact .fault fault
  | cut allowed => exact .cut allowed _

/-! ## Parsers that run others in order -/

/-- Accepting a value corresponds to itself. -/
theorem pure (value : α) : S.OnParser (Parser.pure value) (Parser.pure value) :=
  fun _ _ inputs => .accept value inputs

/-- Rejecting at the cursor corresponds to itself. -/
theorem failing (kind : String) (args : List Host) :
    S.OnParser (Parser.fail kind args : Parser α) (Parser.fail kind args) :=
  fun _ _ inputs => .reject (S.fail kind args inputs)

/-- Stopping corresponds to itself. -/
theorem stop (fault : ParseFault) :
    S.OnParser (Parser.stop fault : Parser α) (Parser.stop fault) :=
  fun _ _ _ => .fault fault

/-- Images of corresponding parsers correspond. -/
theorem map (f : α → β) {first second : Parser α} (related : S.OnParser first second) :
    S.OnParser (Parser.map f first) (Parser.map f second) := by
  intro left right inputs
  apply andThen (related inputs)
  intro value rest rest' rests
  exact .accept (f value) rests

/-- Conversions of corresponding parsers correspond, when the errors they refuse with do. -/
theorem mapOrRefuse (f : α → Except Parser.Refusal β) {first second : Parser α}
    (refusals : ∀ value error, f value = .error (.error error) → S.onError error error)
    (related : S.OnParser first second) :
    S.OnParser (Parser.mapOrRefuse f first) (Parser.mapOrRefuse f second) := by
  intro left right inputs
  apply andThen (related inputs)
  intro value rest rest' rests
  cases converted : f value with
  | ok result => exact .accept result rests
  | error refusal =>
    cases refusal with
    | reason text => exact .reject (S.fail _ _ inputs)
    | error error => exact .reject (refusals value error converted)

/-- Tests of corresponding parsers correspond. -/
theorem acceptWhen [Shown α] {first second : Parser α} (related : S.OnParser first second)
    (test : α → Bool) (kind : String) (args : List Host) :
    S.OnParser (first.acceptWhen test kind args) (second.acceptWhen test kind args) := by
  intro left right inputs
  apply andThen (related inputs)
  intro value rest rest' rests
  cases passed : test value with
  | true => simpa [passed] using .accept value rests
  | false => simpa [passed] using .reject (S.fail _ _ inputs)

/-- Two corresponding parsers in order correspond. -/
theorem seq2 {first first' : Parser α} {second second' : Parser β}
    (head : S.OnParser first first') (tail : S.OnParser second second') :
    S.OnParser (Parser.seq2 first second) (Parser.seq2 first' second') := by
  intro left right inputs
  apply andThen (head inputs)
  intro value rest rest' rests
  exact map _ tail rests

/-- Three corresponding parsers in order correspond. -/
theorem seq3 {first first' : Parser α} {second second' : Parser β} {third third' : Parser γ}
    (head : S.OnParser first first') (middle : S.OnParser second second')
    (tail : S.OnParser third third') :
    S.OnParser (Parser.seq3 first second third) (Parser.seq3 first' second' third') := by
  intro left right inputs
  apply andThen (seq2 head middle inputs)
  intro values rest rest' rests
  exact map _ tail rests

/-- Corresponding parsers in order correspond. -/
theorem seq {parsers parsers' : List (Parser α)} (related : S.OnParsers parsers parsers') :
    S.OnParser (Parser.seq parsers) (Parser.seq parsers') := by
  induction related with
  | nil => exact pure []
  | cons head tail ih =>
    intro left right inputs
    apply andThen (head inputs)
    intro value rest rest' rests
    exact map _ ih rests

/-- Corresponding parsers repeated a fixed number of times correspond. -/
theorem iterate {first second : Parser α} (related : S.OnParser first second) (count : Nat) :
    S.OnParser (first.iterate count) (second.iterate count) := by
  induction count with
  | zero => exact pure []
  | succ count ih =>
    intro left right inputs
    apply andThen (related inputs)
    intro value rest rest' rests
    exact map _ ih rests

/-! ## Parsers that run others instead of each other -/

/-- Corresponding choices correspond, with corresponding errors kept so far. -/
theorem firstOfAfter {parsers parsers' : List (Parser α)} (related : S.OnParsers parsers parsers')
    {failed failed' : Option ParseError} (kept : Option.Rel S.onError failed failed') :
    S.OnParser (Parser.firstOfAfter failed parsers) (Parser.firstOfAfter failed' parsers') := by
  induction related generalizing failed failed' with
  | nil =>
    intro left right inputs
    cases kept with
    | some errors => exact .reject errors
    | none => exact .reject (S.fail _ _ inputs)
  | cons head tail ih =>
    intro left right inputs
    apply orElse (head inputs)
    intro error error' errors
    exact ih (.some (S.pick inputs kept errors)) inputs

/-- Choices among corresponding parsers correspond. -/
theorem firstOf {parsers parsers' : List (Parser α)} (related : S.OnParsers parsers parsers') :
    S.OnParser (Parser.firstOf parsers) (Parser.firstOf parsers') :=
  firstOfAfter related .none

/-- Corresponding parsers with a default correspond. -/
theorem optional {first second : Parser α} (related : S.OnParser first second) (default : α) :
    S.OnParser (first.optional default) (second.optional default) :=
  firstOf (.cons related (.cons (pure default) .nil))

/-- Looking ahead with corresponding parsers corresponds. -/
theorem lookAhead {first second : Parser α} (related : S.OnParser first second) :
    S.OnParser first.lookAhead second.lookAhead := by
  intro left right inputs
  apply andThen (related inputs)
  intro value rest rest' rests
  exact .accept value inputs

/-- Negations of corresponding parsers correspond. -/
theorem not [Shown α] {first second : Parser α} (related : S.OnParser first second) :
    S.OnParser first.not second.not := by
  intro left right inputs
  have verdicts := related inputs
  rw [Parser.verdict_not, Parser.verdict_not]
  generalize (first left).verdict = verdict, (second right).verdict = verdict' at verdicts ⊢
  cases verdicts with
  | accept value rests => exact .reject (S.fail _ _ inputs)
  | reject errors => exact .accept () inputs
  | fault fault => exact .fault fault
  | cut allowed => exact .cut allowed _

/-- Corresponding parsers that need the whole input correspond. -/
theorem entireInput {first second : Parser α} (related : S.OnParser first second) :
    S.OnParser first.entireInput second.entireInput := by
  intro left right inputs
  apply andThen (related inputs)
  intro value rest rest' rests
  rw [← S.peek rests]
  cases rest.peek? with
  | some symbol => exact .reject (S.fail _ _ rests)
  | none => exact .accept value rests

/-- Corresponding parsers that need the whole input, with an error of one's own, correspond. -/
theorem entireInputWith {first second : Parser α} (related : S.OnParser first second)
    (kind : String) (args : List Host) :
    S.OnParser (first.entireInputWith kind args) (second.entireInputWith kind args) := by
  intro left right inputs
  apply andThen (related inputs)
  intro value rest rest' rests
  have same : rest.isEmpty = rest'.isEmpty := by rw [Input.isEmpty, S.remaining rests]; rfl
  rw [← same]
  cases rest.isEmpty with
  | true => exact .accept value rests
  | false => exact .reject (S.fail _ _ rests)

/-- Named corresponding parsers correspond. -/
theorem named (name : String) {first second : Parser α} (related : S.OnParser first second) :
    S.OnParser (Parser.named name first) (Parser.named name second) := by
  intro left right inputs
  have verdicts := related inputs
  rw [Parser.verdict_named, Parser.verdict_named]
  generalize (first left).verdict = verdict, (second right).verdict = verdict' at verdicts ⊢
  cases verdicts with
  | accept value rests => exact .accept value rests
  | reject errors => exact .reject (S.within name errors)
  | fault fault => exact .fault fault
  | cut allowed => exact .cut allowed _

/-! ## Repetition -/

/-- Repetitions of corresponding parsers correspond: each run of one moves exactly when the run of
the other does. -/
theorem foldUpTo {first second : Parser α} (related : S.OnParser first second) (f : σ → α → σ)
    (bound : Nat) (records records' : List Record) (state : σ) (runs : Nat) {left right : Input}
    (inputs : S.onInput left right) :
    S.OnVerdict (first.foldUpTo f bound records state runs left).verdict
      (second.foldUpTo f bound records' state runs right).verdict := by
  induction bound generalizing records records' state runs left right with
  | zero => exact .fault .endless
  | succ bound ih =>
    have verdicts := related inputs
    rw [Parser.verdict_foldUpTo_succ, Parser.verdict_foldUpTo_succ]
    generalize (first left).verdict = verdict, (second right).verdict = verdict' at verdicts ⊢
    cases verdicts with
    | @accept value rest rest' rests =>
      have moved := S.moved inputs rests
      by_cases idle : rest.cursor = left.cursor
      · simpa only [idle, moved.mp idle, ↓reduceIte] using .accept _ rests
      · simpa only [idle, mt moved.mpr idle, ↓reduceIte] using ih _ _ _ _ rests
    | reject errors => exact .accept _ inputs
    | fault fault => exact .fault fault
    | cut allowed => exact .cut allowed _

/-- Folds of corresponding parsers correspond. -/
theorem foldl {first second : Parser α} (related : S.OnParser first second) (state : σ)
    (f : σ → α → σ) : S.OnParser (first.foldl state f) (second.foldl state f) := by
  apply map
  intro left right inputs
  unfold Parser.foldRuns
  rw [← S.remaining inputs]
  exact foldUpTo related f _ _ _ state 0 inputs

/-- Folds of at least one run of corresponding parsers correspond. -/
theorem foldl1 {first second : Parser α} (related : S.OnParser first second) (state : σ)
    (f : σ → α → σ) : S.OnParser (first.foldl1 state f) (second.foldl1 state f) := by
  intro left right inputs
  apply andThen (related inputs)
  intro value rest rest' rests
  exact foldl related _ f rests

/-- Folds into the values of corresponding first parsers correspond. -/
theorem foldlFrom {first second : Parser α} {start start' : Parser σ}
    (related : S.OnParser first second) (starts : S.OnParser start start') (f : σ → α → σ) :
    S.OnParser (first.foldlFrom start f) (second.foldlFrom start' f) := by
  intro left right inputs
  apply andThen (starts inputs)
  intro state rest rest' rests
  exact foldl related state f rests

/-- Corresponding parsers run zero or more times correspond. -/
theorem many {first second : Parser α} (related : S.OnParser first second) :
    S.OnParser first.many second.many :=
  foldl related #[] Array.push

/-- Corresponding parsers run one or more times correspond. -/
theorem many1 {first second : Parser α} (related : S.OnParser first second) :
    S.OnParser first.many1 second.many1 := by
  intro left right inputs
  apply andThen (related inputs)
  intro value rest rest' rests
  exact foldl related #[value] Array.push rests

/-- Corresponding parsers run zero or more times without their values correspond. -/
theorem any {first second : Parser α} (related : S.OnParser first second) :
    S.OnParser first.any second.any :=
  foldl related () _

/-- Corresponding parsers run one or more times without their values correspond. -/
theorem any1 {first second : Parser α} (related : S.OnParser first second) :
    S.OnParser first.any1 second.any1 := by
  intro left right inputs
  apply andThen (related inputs)
  intro value rest rest' rests
  exact any related rests

/-! ## Symbols -/

/-- Any symbol corresponds to itself. -/
theorem oneChar : S.OnParser Parser.oneChar Parser.oneChar := by
  intro left right inputs
  unfold Parser.oneChar
  rw [← S.peek inputs]
  cases found : left.peek? with
  | some symbol => exact .accept _ (S.past inputs found)
  | none => exact .reject (S.fail _ _ inputs)

/-- The symbols of a text correspond to themselves. -/
theorem litStringFrom (text : String) (expected : List Char) :
    S.OnParser (Parser.litStringFrom text expected) (Parser.litStringFrom text expected) := by
  induction expected with
  | nil => exact pure text
  | cons wanted others ih =>
    intro left right inputs
    unfold Parser.litStringFrom
    rw [← S.peek inputs]
    cases found : left.peek? with
    | none => exact .reject (S.fail _ _ inputs)
    | some symbol =>
      by_cases same : symbol = wanted
      · simpa only [same, ↓reduceIte] using ih (S.past inputs (same ▸ found))
      · simpa only [same, ↓reduceIte] using .reject (S.fail _ _ inputs)

/-- Blanks correspond to themselves. -/
theorem space : S.OnParser Parser.space Parser.space := acceptWhen oneChar _ _ _

/-- Digits correspond to themselves. -/
theorem digit : S.OnParser Parser.digit Parser.digit := acceptWhen oneChar _ _ _

/-- Whole numbers correspond to themselves: the only refusals they know have reasons. -/
theorem int : S.OnParser Parser.int Parser.int := by
  apply mapOrRefuse _ _ (many1 digit)
  intro codes error refused
  unfold Parser.readInteger at refused
  split at refused <;> cases refused

/-! ## Terms and grammars -/

/-- The parsers of corresponding parts correspond. -/
theorem parsers {rule rule' : String → Parser Host} {terms : List Term}
    (related : ∀ term ∈ terms, S.OnParser (term.parser rule) (term.parser rule')) :
    S.OnParsers (Term.parsers rule terms) (Term.parsers rule' terms) := by
  rw [OnParsers, Term.parsers_eq_map, Term.parsers_eq_map, List.forall₂_map_left_iff,
    List.forall₂_map_right_iff]
  exact List.forall₂_same.mpr related

/-- A term over corresponding rules gives corresponding parsers, when the errors it refuses values
with correspond to themselves. -/
theorem term {rule rule' : String → Parser Host}
    (rules : ∀ name, S.OnParser (rule name) (rule' name)) {term : Term}
    (refusals : term.Every (Term.RefusesWith fun error => S.onError error error)) :
    S.OnParser (term.parser rule) (term.parser rule') := by
  induction refusals with
  | @intro term here inside ih =>
  have only {part : Term} (single : term.parts = [part]) :
      S.OnParser (part.parser rule) (part.parser rule') := ih part (by simp [single])
  have both {first second : Term} (pair : term.parts = [first, second]) :
      S.OnParser (first.parser rule) (first.parser rule') ∧
        S.OnParser (second.parser rule) (second.parser rule') :=
    ⟨ih first (by simp [pair]), ih second (by simp [pair])⟩
  cases term with
  | oneChar => exact map _ oneChar
  | lit | range | letter | lowerLetter | upperLetter => exact map _ (acceptWhen oneChar _ _ _)
  | digit => exact map _ digit
  | space => exact map _ space
  | litString text => exact map _ (litStringFrom text _)
  | spaces => exact map _ (any1 space)
  | digitValue => exact map _ (map _ digit)
  | int => exact map _ int
  | pure value => exact pure value
  | fail kind args => exact failing kind args
  | rejectNothing => exact stop _
  | always part value => exact map _ (only rfl)
  | alwaysSymbol => exact map _ (acceptWhen oneChar _ _ _)
  | token part => exact map _ (seq2 (only rfl) (any space))
  | acceptWhen part => exact acceptWhen (only rfl) _ _ _
  | seq terms => exact map _ (seq (parsers ih))
  | seq2 first second | left first second | right first second =>
    exact map _ (seq2 (both rfl).1 (both rfl).2)
  | seq3 first second third =>
    exact map _ (seq3 (ih first (by simp [Term.parts])) (ih second (by simp [Term.parts]))
      (ih third (by simp [Term.parts])))
  | nthOf index terms => exact map _ (seq (parsers ih))
  | firstOf terms => exact firstOf (parsers ih)
  | optional part default => exact optional (only rfl) default
  | transform part f => exact map f (only rfl)
  | transformOrRefuse part f => exact mapOrRefuse f here (only rfl)
  | ref name => exact rules name
  | lookAhead part => exact lookAhead (only rfl)
  | not part => exact map _ (not (only rfl))
  | entireInput part => exact entireInput (only rfl)
  | entireInputWith part kind args => exact entireInputWith (only rfl) kind args
  | many part => exact map _ (many (only rfl))
  | many1 part => exact map _ (many1 (only rfl))
  | any part => exact map _ (any (only rfl))
  | any1 part => exact map _ (any1 (only rfl))
  | iterate part count => exact map _ (iterate (only rfl) _)
  | foldl part initial f => exact foldl (only rfl) initial f
  | foldl1 part initial f => exact foldl1 (only rfl) initial f
  | foldlFrom part first f => exact foldlFrom (both rfl).2 (both rfl).1 f
  | named name part => exact named name (only rfl)

variable {grammar : Grammar}

/-- The rules of a grammar correspond to themselves at every depth. -/
theorem ruleParser (refusals : grammar.Every (Term.RefusesWith fun error => S.onError error error))
    (depth : Nat) (name : String) :
    S.OnParser (grammar.ruleParser depth name) (grammar.ruleParser depth name) := by
  induction depth generalizing name with
  | zero => exact stop .endless
  | succ depth ih =>
    cases found : grammar.rule? name with
    | some body =>
      rw [Grammar.ruleParser_succ found]
      exact term ih (refusals name body found)
    | none =>
      rw [Grammar.ruleParser_missing found]
      exact stop (.missingRule name)

/-- A term over the rules of a grammar corresponds to itself. -/
theorem grammarParser
    (refusals : grammar.Every (Term.RefusesWith fun error => S.onError error error)) {term : Term}
    (refusals' : term.Every (Term.RefusesWith fun error => S.onError error error)) :
    S.OnParser (grammar.parser term) (grammar.parser term) := by
  intro left right inputs
  have depths : grammar.depthOn left = grammar.depthOn right := by
    rw [Grammar.depthOn, Grammar.depthOn, S.remaining inputs]
  unfold Grammar.parser
  rw [← depths]
  exact Simulation.term (ruleParser refusals _) refusals' inputs

end Simulation

end GrammarKit
