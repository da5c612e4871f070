import GrammarKit.Grammar.Term
/-!
# Runs that know which named parsers are running

An error gets its name on the way out, from the named parsers it passes. To say which name that is,
parsing is instrumented: a run amid named parsers knows the names of those that are running, marks
each error with them when it makes it, and never touches the mark again. What the mark is, is left
open. The instrumented combinators are those that make errors; the others are used as they are.
-/

namespace GrammarKit

/-- What an error is marked with, from the names of the parsers that are running when it is made,
innermost first. -/
abbrev Marking := List String → String

/-- An error at the cursor with a mark. -/
def Input.failAs (input : Input) (mark : String) (kind : String) (args : List Host) : ParseError :=
  { input.fail kind args with production := mark }

/-- The verdict with a mark on its error. -/
def Verdict.signed {α : Type} (mark : String) : Verdict α → Verdict α
  | .reject error => .reject { error with production := mark }
  | verdict => verdict

/-! ## Making errors with marks -/

namespace Parser

variable {α β : Type}

/-- A parser with no named parsers inside, which marks the errors it makes. -/
def signed (mark : String) (parser : Parser α) : Parser α := fun input =>
  ⟨(parser input).records, (parser input).verdict.signed mark⟩

/-- Converts the accepted value and marks the error of a refusal. -/
def mapOrRefuseAs (mark : String) (f : α → Except Refusal β) (parser : Parser α) : Parser β :=
  fun input =>
    (parser input).andThen fun value rest =>
      match f value with
      | .ok converted => { verdict := .accept converted rest }
      | .error (.error error) => { verdict := .reject { error with production := mark } }
      | .error (.reason text) =>
        { verdict := .reject (input.failAs mark ErrorKind.transformFailed [.text text]) }

/-- Rejects the values that fail a test, with a marked error where the parser started. -/
def acceptWhenAs [Shown α] (mark : String) (parser : Parser α) (test : α → Bool) (kind : String)
    (args : List Host) : Parser α := fun input =>
  (parser input).andThen fun value rest =>
    if test value then { verdict := .accept value rest }
    else { verdict := .reject (input.failAs mark kind (Shown.display value :: args)) }

/-- Tries parsers on the same input until one accepts, and marks the error of having none. -/
def firstOfAfterAs (mark : String) (failed : Option ParseError) : List (Parser α) → Parser α
  | [] => fun input =>
    { verdict := .reject
        (failed.getD (input.failAs mark ErrorKind.noneOfTheExpectedCasesFound [])) }
  | first :: others => fun input =>
    (first input).orElse fun error =>
      firstOfAfterAs mark (some (input.surroundings.errorPolicy.pick failed error)) others input

/-- Rejects with a marked error when the parser accepts. -/
def notAs [Shown α] (mark : String) (parser : Parser α) : Parser Unit := fun input =>
  let outcome := parser input
  match outcome.verdict with
  | .accept value _ =>
    ⟨outcome.records,
      .reject (input.failAs mark ErrorKind.unexpectedSuccess [Shown.display value])⟩
  | .reject _ => ⟨outcome.records, .accept () input⟩
  | .fault fault => ⟨outcome.records, .fault fault⟩

/-- A marked negation accepts what is rejected and rejects what is accepted. -/
theorem verdict_notAs [Shown α] (mark : String) (parser : Parser α) (input : Input) :
    (parser.notAs mark input).verdict =
      match (parser input).verdict with
      | .accept value _ =>
        .reject (input.failAs mark ErrorKind.unexpectedSuccess [Shown.display value])
      | .reject _ => .accept () input
      | .fault fault => .fault fault := by
  unfold notAs
  obtain ⟨records, verdict⟩ := parser input
  cases verdict <;> rfl

/-- Rejects with a marked error when symbols are left. -/
def entireInputAs (mark : String) (parser : Parser α) : Parser α := fun input =>
  (parser input).andThen fun value rest =>
    match rest.peek? with
    | some symbol =>
      { verdict := .reject
          (rest.failAs mark ErrorKind.endOfInputExpected [.text (String.singleton symbol)]) }
    | none => { verdict := .accept value rest }

/-- Rejects with a marked error of the given kind when symbols are left. -/
def entireInputWithAs (mark : String) (parser : Parser α) (kind : String) (args : List Host) :
    Parser α := fun input =>
  (parser input).andThen fun value rest =>
    if rest.isEmpty then { verdict := .accept value rest }
    else { verdict := .reject (rest.failAs mark kind args) }

end Parser

/-! ## Running amid named parsers -/

mutual

/-- The instrumented parser of a term, amid running parsers. A name is put on top of those running,
and nothing else; terms without parts mark their errors as a whole. -/
def Term.parserAmid (mark : Marking) (rule : List String → String → Parser Host)
    (running : List String) : Term → Parser Host
  | .always term value => .always (parserAmid mark rule running term) value
  | .token term => .token (parserAmid mark rule running term)
  | .acceptWhen term test kind args =>
    .acceptWhenAs (mark running) (parserAmid mark rule running term) test kind args
  | .seq terms => .map (collected terms) (.seq (parsersAmid mark rule running terms))
  | .seq2 first second =>
    .map (fun values => .pair values.1 values.2)
      (.seq2 (parserAmid mark rule running first) (parserAmid mark rule running second))
  | .seq3 first second third =>
    .map (fun values => .triple values.1 values.2.1 values.2.2)
      (.seq3 (parserAmid mark rule running first) (parserAmid mark rule running second)
        (parserAmid mark rule running third))
  | .left first second =>
    .left (parserAmid mark rule running first) (parserAmid mark rule running second)
  | .right first second =>
    .right (parserAmid mark rule running first) (parserAmid mark rule running second)
  | .nthOf index terms => .nthOf index.toNat (parsersAmid mark rule running terms)
  | .firstOf terms => .firstOfAfterAs (mark running) none (parsersAmid mark rule running terms)
  | .optional term default =>
    .firstOfAfterAs (mark running) none [parserAmid mark rule running term, .pure default]
  | .transform term f => .map f (parserAmid mark rule running term)
  | .transformOrRefuse term f => .mapOrRefuseAs (mark running) f (parserAmid mark rule running term)
  | .ref name => rule running name
  | .lookAhead term => .lookAhead (parserAmid mark rule running term)
  | .not term => .always (.notAs (mark running) (parserAmid mark rule running term)) .unit
  | .entireInput term => .entireInputAs (mark running) (parserAmid mark rule running term)
  | .entireInputWith term kind args =>
    .entireInputWithAs (mark running) (parserAmid mark rule running term) kind args
  | .many term =>
    .map (fun values => collected [term] values.toList) (.many (parserAmid mark rule running term))
  | .many1 term =>
    .map (fun values => collected [term] values.toList)
      (.many1 (parserAmid mark rule running term))
  | .any term => .always (.any (parserAmid mark rule running term)) .unit
  | .any1 term => .always (.any1 (parserAmid mark rule running term)) .unit
  | .iterate term count =>
    .map (collected [term]) (.iterate (parserAmid mark rule running term) count.toNat)
  | .foldl term initial f => .foldl (parserAmid mark rule running term) initial f
  | .foldl1 term initial f => .foldl1 (parserAmid mark rule running term) initial f
  | .foldlFrom term first f =>
    .foldlFrom (parserAmid mark rule running term) (parserAmid mark rule running first) f
  | .named name term => parserAmid mark rule (name :: running) term
  | term => .signed (mark running) (parser (rule running) term)

/-- The instrumented parsers of several terms, amid running parsers. -/
def Term.parsersAmid (mark : Marking) (rule : List String → String → Parser Host)
    (running : List String) : List Term → List (Parser Host)
  | [] => []
  | first :: others =>
    parserAmid mark rule running first :: parsersAmid mark rule running others

end

namespace Grammar

/-- The instrumented parser of a rule, amid running parsers, whose references may nest as deeply as
the second argument says. -/
def ruleParserAmid (grammar : Grammar) (mark : Marking) :
    Nat → List String → String → Parser Host
  | 0, _, _ => .stop .endless
  | depth + 1, running, name =>
    match grammar.rule? name with
    | some term => term.parserAmid mark (grammar.ruleParserAmid mark depth) running
    | none => .stop (.missingRule name)

/-- The instrumented parser of a term over the rules of a grammar, with no parsers running yet. -/
def parserAmid (grammar : Grammar) (mark : Marking) (term : Term) : Parser Host := fun input =>
  term.parserAmid mark (grammar.ruleParserAmid mark (grammar.depthOn input)) [] input

end Grammar

end GrammarKit
