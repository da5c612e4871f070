import GrammarKit.Proofs.Position
/-!
# What runs write

A chronicle is a condition on the records of runs that holds of no records and of records one after
the other. Combinators only ever put the records of their parsers one after the other, so they keep
every chronicle; all that is left to look at is what named parsers write. From these a term keeps a
chronicle (`Chronicle.term`), and so does each rule of a grammar (`Chronicle.ruleParser`).
-/

namespace GrammarKit

open Input (Ahead)

/-- A condition on the records of runs from some inputs. -/
structure Chronicle where
  /-- Which inputs runs start from. -/
  onInput : Input → Prop
  /-- What may be written. -/
  onRecords : List Record → Prop
  /-- Whether runs that had to stop are looked at as well. -/
  stopped : Prop
  /-- Runs may start past the symbol under the cursor. -/
  past : ∀ {input symbol}, onInput input → input.peek? = some symbol → onInput (input.past symbol)
  /-- Nothing may be written. -/
  nothing : onRecords []
  /-- What may be written may be written one after the other. -/
  append : ∀ {first second}, onRecords first → onRecords second → onRecords (first ++ second)

namespace Chronicle

variable {α β γ σ : Type} {C : Chronicle}

/-- Whether an outcome keeps a chronicle. -/
inductive OnOutcome (C : Chronicle) : Outcome α → Prop where
  /-- A value is accepted after records, and runs may start from the rest. -/
  | accept {records : List Record} (written : C.onRecords records) (value : α) {rest : Input}
      (onwards : C.onInput rest) : OnOutcome C ⟨records, .accept value rest⟩
  /-- An error is made after records. -/
  | reject {records : List Record} (written : C.onRecords records) (error : ParseError) :
      OnOutcome C ⟨records, .reject error⟩
  /-- The run stops after records. -/
  | fault {records : List Record} (written : C.stopped → C.onRecords records) (fault : ParseFault) :
      OnOutcome C ⟨records, .fault fault⟩

/-- Whether a parser keeps a chronicle. -/
def OnParser (C : Chronicle) (parser : Parser α) : Prop :=
  ∀ ⦃input⦄, C.onInput input → C.OnOutcome (parser input)

/-! ## Going on after an outcome -/

/-- Records in front keep the chronicle. -/
theorem OnOutcome.after {records : List Record} {outcome : Outcome α}
    (kept : C.OnOutcome outcome) (written : C.onRecords records) :
    C.OnOutcome (outcome.after records) := by
  cases kept with
  | accept later value onwards => exact .accept (C.append written later) value onwards
  | reject later error => exact .reject (C.append written later) error
  | fault later fault => exact .fault (fun stopped => C.append written (later stopped)) fault

/-- Going on after an accepted value keeps the chronicle. -/
theorem OnOutcome.andThen {outcome : Outcome α} {next : α → Input → Outcome β}
    (kept : C.OnOutcome outcome) (later : ∀ value {rest}, C.onInput rest →
      C.OnOutcome (next value rest)) : C.OnOutcome (outcome.andThen next) := by
  cases kept with
  | accept written value onwards => exact (later value onwards).after written
  | reject written error => exact .reject written error
  | fault written fault => exact .fault written fault

/-- Going on after an error keeps the chronicle. -/
theorem OnOutcome.orElse {outcome : Outcome α} {next : ParseError → Outcome α}
    (kept : C.OnOutcome outcome) (later : ∀ error, C.OnOutcome (next error)) :
    C.OnOutcome (outcome.orElse next) := by
  cases kept with
  | accept written value onwards => exact .accept written value onwards
  | reject written error => exact (later error).after written
  | fault written fault => exact .fault written fault

/-! ## Parsers that run others in order -/

/-- Accepting in place keeps every chronicle. -/
theorem pure (value : α) : C.OnParser (Parser.pure value) :=
  fun _ here => .accept C.nothing value here

/-- Rejecting keeps every chronicle. -/
theorem failing (kind : String) (args : List Host) :
    C.OnParser (Parser.fail kind args : Parser α) :=
  fun _ _ => .reject C.nothing _

/-- Stopping keeps every chronicle. -/
theorem stop (fault : ParseFault) : C.OnParser (Parser.stop fault : Parser α) :=
  fun _ _ => .fault (fun _ => C.nothing) fault

/-- Images keep a chronicle. -/
theorem map (f : α → β) {parser : Parser α} (kept : C.OnParser parser) :
    C.OnParser (Parser.map f parser) :=
  fun _ here => (kept here).andThen fun value _ onwards => .accept C.nothing (f value) onwards

/-- Conversions keep a chronicle. -/
theorem mapOrRefuse (f : α → Except Parser.Refusal β) {parser : Parser α}
    (kept : C.OnParser parser) : C.OnParser (Parser.mapOrRefuse f parser) := by
  intro input here
  refine (kept here).andThen fun value rest onwards => ?_
  split
  · exact .accept C.nothing _ onwards
  · exact .reject C.nothing _
  · exact .reject C.nothing _

/-- Tests keep a chronicle. -/
theorem acceptWhen [Shown α] {parser : Parser α} (kept : C.OnParser parser) (test : α → Bool)
    (kind : String) (args : List Host) : C.OnParser (parser.acceptWhen test kind args) := by
  intro input here
  refine (kept here).andThen fun value rest onwards => ?_
  split
  · exact .accept C.nothing value onwards
  · exact .reject C.nothing _

/-- Two parsers in order keep a chronicle. -/
theorem seq2 {first : Parser α} {second : Parser β} (head : C.OnParser first)
    (tail : C.OnParser second) : C.OnParser (Parser.seq2 first second) :=
  fun _ here => (head here).andThen fun _ _ onwards => map _ tail onwards

/-- Three parsers in order keep a chronicle. -/
theorem seq3 {first : Parser α} {second : Parser β} {third : Parser γ} (head : C.OnParser first)
    (middle : C.OnParser second) (tail : C.OnParser third) :
    C.OnParser (Parser.seq3 first second third) :=
  fun _ here => (seq2 head middle here).andThen fun _ _ onwards => map _ tail onwards

/-- Parsers in order keep a chronicle. -/
theorem seq {parsers : List (Parser α)} (kept : ∀ parser ∈ parsers, C.OnParser parser) :
    C.OnParser (Parser.seq parsers) := by
  induction parsers with
  | nil => exact pure []
  | cons first others ih =>
    obtain ⟨head, tail⟩ := List.forall_mem_cons.mp kept
    exact fun _ here => (head here).andThen fun _ _ onwards => map _ (ih tail) onwards

/-- A fixed number of runs keeps a chronicle. -/
theorem iterate {parser : Parser α} (kept : C.OnParser parser) (count : Nat) :
    C.OnParser (parser.iterate count) := by
  induction count with
  | zero => exact pure []
  | succ count ih =>
    exact fun _ here => (kept here).andThen fun _ _ onwards => map _ ih onwards

/-! ## Parsers that run others instead of each other -/

/-- Choices keep a chronicle. -/
theorem firstOfAfter {parsers : List (Parser α)} (kept : ∀ parser ∈ parsers, C.OnParser parser)
    (failed : Option ParseError) : C.OnParser (Parser.firstOfAfter failed parsers) := by
  induction parsers generalizing failed with
  | nil => exact fun _ _ => .reject C.nothing _
  | cons first others ih =>
    obtain ⟨head, tail⟩ := List.forall_mem_cons.mp kept
    exact fun _ here => (head here).orElse fun _ => ih tail _ here

/-- Parsers with a default keep a chronicle. -/
theorem optional {parser : Parser α} (kept : C.OnParser parser) (default : α) :
    C.OnParser (parser.optional default) :=
  firstOfAfter (List.forall_mem_cons.mpr ⟨kept, List.forall_mem_singleton.mpr (pure default)⟩) none

/-- Looking ahead keeps a chronicle. -/
theorem lookAhead {parser : Parser α} (kept : C.OnParser parser) : C.OnParser parser.lookAhead :=
  fun _ here => (kept here).andThen fun value _ _ => .accept C.nothing value here

/-- Negations keep a chronicle. -/
theorem not [Shown α] {parser : Parser α} (kept : C.OnParser parser) : C.OnParser parser.not := by
  intro input here
  have inner := kept here
  unfold Parser.not
  generalize parser input = outcome at inner ⊢
  cases inner with
  | accept written value onwards => exact .reject written _
  | reject written error => exact .accept written () here
  | fault written fault => exact .fault written fault

/-- Parsers of the whole input keep a chronicle. -/
theorem entireInput {parser : Parser α} (kept : C.OnParser parser) :
    C.OnParser parser.entireInput := by
  intro input here
  refine (kept here).andThen fun value rest onwards => ?_
  split
  · exact .reject C.nothing _
  · exact .accept C.nothing value onwards

/-- Parsers of the whole input with an error of one's own keep a chronicle. -/
theorem entireInputWith {parser : Parser α} (kept : C.OnParser parser) (kind : String)
    (args : List Host) : C.OnParser (parser.entireInputWith kind args) := by
  intro input here
  refine (kept here).andThen fun value rest onwards => ?_
  split
  · exact .accept C.nothing value onwards
  · exact .reject C.nothing _

/-! ## Repetition -/

/-- Bounded runs keep a chronicle, going on from records that do. -/
theorem foldUpTo {parser : Parser α} (kept : C.OnParser parser) (f : σ → α → σ) (bound : Nat)
    {records : List Record} (written : C.onRecords records) (state : σ) (runs : Nat) {input : Input}
    (here : C.onInput input) : C.OnOutcome (parser.foldUpTo f bound records state runs input) := by
  induction bound generalizing records state runs input with
  | zero => exact .fault (fun _ => written) .endless
  | succ bound ih =>
    have inner := kept here
    unfold Parser.foldUpTo
    generalize parser input = outcome at inner ⊢
    cases inner with
    | accept later value onwards =>
      dsimp only
      split
      · exact .accept (C.append written later) _ onwards
      · exact ih (C.append written later) _ _ onwards
    | reject later error => exact .accept (C.append written later) _ here
    | fault later fault => exact .fault (fun stopped => C.append written (later stopped)) fault

/-- Folds keep a chronicle. -/
theorem foldl {parser : Parser α} (kept : C.OnParser parser) (state : σ) (f : σ → α → σ) :
    C.OnParser (parser.foldl state f) :=
  map _ fun _ here => foldUpTo kept f _ C.nothing state 0 here

/-- A fold that starts from an accepted value keeps a chronicle. -/
theorem thenFoldl {first : Parser β} {parser : Parser α} (head : C.OnParser first)
    (kept : C.OnParser parser) (start : β → σ) (f : σ → α → σ) :
    C.OnParser fun input =>
      (first input).andThen fun value rest => parser.foldl (start value) f rest :=
  fun _ here => (head here).andThen fun value _ onwards => foldl kept (start value) f onwards

/-! ## Symbols -/

/-- Any symbol keeps every chronicle. -/
theorem oneChar : C.OnParser Parser.oneChar := by
  intro input here
  unfold Parser.oneChar
  cases found : input.peek? with
  | some symbol => exact .accept C.nothing _ (C.past here found)
  | none => exact .reject C.nothing _

/-- The symbols of a text keep every chronicle. -/
theorem litStringFrom (text : String) (expected : List Char) :
    C.OnParser (Parser.litStringFrom text expected) := by
  induction expected with
  | nil => exact pure text
  | cons wanted others ih =>
    intro input here
    unfold Parser.litStringFrom
    cases found : input.peek? with
    | none => exact .reject C.nothing _
    | some symbol =>
      dsimp only
      split
      · exact ih (C.past here found)
      · exact .reject C.nothing _

/-- Blanks keep every chronicle. -/
theorem space : C.OnParser Parser.space := acceptWhen oneChar _ _ _

/-- Digits keep every chronicle. -/
theorem digit : C.OnParser Parser.digit := acceptWhen oneChar _ _ _

/-! ## Terms -/

/-- Whether the name of a named term keeps a chronicle that the term inside keeps. -/
def Names (C : Chronicle) (rule : String → Parser Host) : Term → Prop
  | .named name term => C.OnParser (term.parser rule) → C.OnParser (.named name (term.parser rule))
  | _ => True

/-- The parsers of terms that keep a chronicle do so in a list. -/
theorem parsers {rule : String → Parser Host} {terms : List Term}
    (kept : ∀ term ∈ terms, C.OnParser (term.parser rule)) :
    ∀ parser ∈ Term.parsers rule terms, C.OnParser parser := by
  rw [Term.parsers_eq_map]
  exact List.forall_mem_map.mpr kept

/-- A term over rules that keep a chronicle keeps it, if all its names do. -/
theorem term {rule : String → Parser Host} (rules : ∀ name, C.OnParser (rule name)) {term : Term}
    (names : term.Every (C.Names rule)) : C.OnParser (term.parser rule) := by
  induction names with
  | @intro term here inside ih =>
  have only {part : Term} (single : term.parts = [part]) : C.OnParser (part.parser rule) :=
    ih part (by simp [single])
  have both {first second : Term} (pair : term.parts = [first, second]) :
      C.OnParser (first.parser rule) ∧ C.OnParser (second.parser rule) :=
    ⟨ih first (by simp [pair]), ih second (by simp [pair])⟩
  cases term with
  | oneChar => exact map _ oneChar
  | lit | range | letter | lowerLetter | upperLetter => exact map _ (acceptWhen oneChar _ _ _)
  | digit => exact map _ digit
  | space => exact map _ space
  | litString text => exact map _ (litStringFrom text _)
  | spaces => exact map _ (thenFoldl space space _ _)
  | digitValue => exact map _ (map _ digit)
  | int => exact map _ (mapOrRefuse _ (thenFoldl digit digit _ _))
  | pure value => exact pure value
  | fail kind args => exact failing kind args
  | rejectNothing => exact stop _
  | always part value => exact map _ (only rfl)
  | alwaysSymbol => exact map _ (acceptWhen oneChar _ _ _)
  | token part => exact map _ (seq2 (only rfl) (foldl space () _))
  | acceptWhen part => exact acceptWhen (only rfl) _ _ _
  | seq terms => exact map _ (seq (parsers ih))
  | seq2 first second | left first second | right first second =>
    exact map _ (seq2 (both rfl).1 (both rfl).2)
  | seq3 first second third =>
    exact map _ (seq3 (ih first (by simp [Term.parts])) (ih second (by simp [Term.parts]))
      (ih third (by simp [Term.parts])))
  | nthOf index terms => exact map _ (seq (parsers ih))
  | firstOf terms => exact firstOfAfter (parsers ih) none
  | optional part default => exact optional (only rfl) default
  | transform part f => exact map f (only rfl)
  | transformOrRefuse part f => exact mapOrRefuse f (only rfl)
  | ref name => exact rules name
  | lookAhead part => exact lookAhead (only rfl)
  | not part => exact map _ (not (only rfl))
  | entireInput part => exact entireInput (only rfl)
  | entireInputWith part kind args => exact entireInputWith (only rfl) kind args
  | many part => exact map _ (foldl (only rfl) _ _)
  | many1 part => exact map _ (thenFoldl (only rfl) (only rfl) _ _)
  | any part => exact map _ (foldl (only rfl) () _)
  | any1 part => exact map _ (thenFoldl (only rfl) (only rfl) _ _)
  | iterate part count => exact map _ (iterate (only rfl) _)
  | foldl part initial f => exact foldl (only rfl) initial f
  | foldl1 part initial f => exact thenFoldl (only rfl) (only rfl) _ f
  | foldlFrom part first f => exact thenFoldl (both rfl).1 (both rfl).2 id f
  | named name part => exact here (only rfl)

variable {grammar : Grammar}

/-- The rules of a grammar keep a chronicle at every depth, if all names in their bodies do. -/
theorem ruleParser (names : ∀ depth, grammar.Every (C.Names (grammar.ruleParser depth)))
    (depth : Nat) (name : String) : C.OnParser (grammar.ruleParser depth name) := by
  induction depth generalizing name with
  | zero => exact stop .endless
  | succ depth ih =>
    cases found : grammar.rule? name with
    | some body =>
      rw [Grammar.ruleParser_succ found]
      exact term ih (names depth name body found)
    | none =>
      rw [Grammar.ruleParser_missing found]
      exact stop (.missingRule name)

end Chronicle

end GrammarKit
