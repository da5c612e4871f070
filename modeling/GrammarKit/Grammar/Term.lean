import GrammarKit.Parser.Primitive
/-!
# Grammars as data

A term writes down a parser over host values. Terms may refer to rules by name, so a grammar can be
recursive. A run follows the term; a bound on how deeply rules may be nested makes every run finite,
and the bound is so large that only a run that would never end meets it.
-/

namespace GrammarKit

/-- A parser over host values, written down. -/
inductive Term where
  /-- Any symbol. -/
  | oneChar
  /-- The symbol with a code. -/
  | lit (code : CodePoint)
  /-- A symbol between two codes. -/
  | range (low high : CodePoint)
  /-- A decimal digit. -/
  | digit
  /-- A letter. -/
  | letter
  /-- A lower-case letter of ASCII. -/
  | lowerLetter
  /-- An upper-case letter of ASCII. -/
  | upperLetter
  /-- A blank. -/
  | space
  /-- The symbols of a text. -/
  | litString (text : String)
  /-- One or more blanks. -/
  | spaces
  /-- The value of a decimal digit. -/
  | digitValue
  /-- A whole number. -/
  | int
  /-- A value, consuming nothing. -/
  | pure (value : Host)
  /-- An error at the cursor. -/
  | fail (kind : String) (args : List Host)
  /-- A rejection without an error, which is a fault. -/
  | rejectNothing
  /-- A fixed value in place of the accepted one. -/
  | always (term : Term) (value : Host)
  /-- A fixed value in place of a symbol. -/
  | alwaysSymbol (code : CodePoint) (value : Host)
  /-- A term and the blanks after it. -/
  | token (term : Term)
  /-- The values that pass a test. -/
  | acceptWhen (term : Term) (test : Host → Bool) (kind : String) (args : List Host)
  /-- Terms one after the other. -/
  | seq (terms : List Term)
  /-- Two terms one after the other. -/
  | seq2 (first second : Term)
  /-- Three terms one after the other. -/
  | seq3 (first second third : Term)
  /-- Two terms, of which the first counts. -/
  | left (first second : Term)
  /-- Two terms, of which the second counts. -/
  | right (first second : Term)
  /-- Terms one after the other, of which one counts. -/
  | nthOf (index : Int) (terms : List Term)
  /-- The first of several terms that accepts. -/
  | firstOf (terms : List Term)
  /-- A term, or a value when it rejects. -/
  | optional (term : Term) (default : Host)
  /-- The image of the accepted value. -/
  | transform (term : Term) (f : Host → Host)
  /-- The image of the accepted value, unless it is refused. -/
  | transformOrRefuse (term : Term) (f : Host → Except Parser.Refusal Host)
  /-- A rule of the grammar. -/
  | ref (name : String)
  /-- A term that consumes nothing. -/
  | lookAhead (term : Term)
  /-- The rejection of a term. -/
  | not (term : Term)
  /-- A term and the end of the input. -/
  | entireInput (term : Term)
  /-- A term and the end of the input, with an error of one's own. -/
  | entireInputWith (term : Term) (kind : String) (args : List Host)
  /-- Zero or more runs. -/
  | many (term : Term)
  /-- One or more runs. -/
  | many1 (term : Term)
  /-- Zero or more runs without their values. -/
  | any (term : Term)
  /-- One or more runs without their values. -/
  | any1 (term : Term)
  /-- Exactly as many runs as asked for. -/
  | iterate (term : Term) (count : Int)
  /-- The values of zero or more runs folded into a value. -/
  | foldl (term : Term) (initial : Host) (f : Host → Host → Host)
  /-- The values of one or more runs folded into a value. -/
  | foldl1 (term : Term) (initial : Host) (f : Host → Host → Host)
  /-- The values of zero or more runs folded into the value of a first term. -/
  | foldlFrom (term first : Term) (f : Host → Host → Host)
  /-- A term with a name. -/
  | named (name : String) (term : Term)
deriving Inhabited

/-- Why a term cannot be made into a parser. -/
inductive TermDefect where
  /-- A sequence does not have the item that should count. -/
  | indexOutOfRange (index : Int) (count : Nat)
  /-- Less than no runs are asked for. -/
  | negativeCount (count : Int)
deriving DecidableEq, Repr

/-- What is wrong, in words. -/
def TermDefect.message : TermDefect → String
  | .indexOutOfRange index count =>
    "NthOf: index " ++ Number.integerText index ++ " out of range [0, " ++
      Number.naturalText count ++ ")"
  | .negativeCount count => "Iterate: negative count " ++ Number.integerText count

namespace Term

/-- Whether a term accepts exactly one symbol and gives it as its value. -/
def givesSymbol : Term → Bool
  | .oneChar | .lit _ | .range _ _ | .digit | .letter | .lowerLetter | .upperLetter | .space => true
  | _ => false

/-- The codes of symbols; values that are no symbols are left out. -/
def codesOf (values : List Host) : List CodePoint :=
  values.filterMap fun value =>
    match value with
    | .symbol code => some code
    | _ => none

/-- Collected values: a run of symbols when the terms behind them give symbols, otherwise a list. -/
def collected (terms : List Term) (values : List Host) : Host :=
  if !terms.isEmpty && terms.all givesSymbol then .symbols (codesOf values) else .list values

mutual

/-- The first defect of a term, the parts before the whole. -/
def defect? : Term → Option TermDefect
  | .nthOf index terms =>
    (defectAmong? terms).or
      (if index < 0 ∨ (terms.length : Int) ≤ index then
        some (.indexOutOfRange index terms.length)
      else none)
  | .iterate term count =>
    (defect? term).or (if count < 0 then some (.negativeCount count) else none)
  | .seq terms | .firstOf terms => defectAmong? terms
  | .seq2 first second | .left first second | .right first second =>
    (defect? first).or (defect? second)
  | .seq3 first second third => ((defect? first).or (defect? second)).or (defect? third)
  | .foldlFrom term first _ => (defect? term).or (defect? first)
  | .always term _ | .token term | .acceptWhen term .. | .optional term _ | .transform term _
  | .transformOrRefuse term _ | .lookAhead term | .not term | .entireInput term
  | .entireInputWith term .. | .many term | .many1 term | .any term | .any1 term
  | .foldl term .. | .foldl1 term .. | .named _ term => defect? term
  | _ => none

/-- The first defect among several terms. -/
def defectAmong? : List Term → Option TermDefect
  | [] => none
  | first :: others => (defect? first).or (defectAmong? others)

end

mutual

/-- The parser that a term writes down; `rule` gives the parsers of the rules it refers to. -/
def parser (rule : String → Parser Host) : Term → Parser Host
  | .oneChar => .map .symbol .oneChar
  | .lit code => .map .symbol (.lit code)
  | .range low high => .map .symbol (.range low high)
  | .digit => .map .symbol .digit
  | .letter => .map .symbol .letter
  | .lowerLetter => .map .symbol .lowerLetter
  | .upperLetter => .map .symbol .upperLetter
  | .space => .map .symbol .space
  | .litString text => .map .text (.litString text)
  | .spaces => .always .spaces .unit
  | .digitValue => .map .int .digitValue
  | .int => .map .int .int
  | .pure value => .pure value
  | .fail kind args => .fail kind args
  | .rejectNothing => .stop .rejectionWithoutError
  | .always term value => .always (parser rule term) value
  | .alwaysSymbol code value => .alwaysSymbol code value
  | .token term => .token (parser rule term)
  | .acceptWhen term test kind args => .acceptWhen (parser rule term) test kind args
  | .seq terms => .map (collected terms) (.seq (parsers rule terms))
  | .seq2 first second =>
    .map (fun values => .pair values.1 values.2) (.seq2 (parser rule first) (parser rule second))
  | .seq3 first second third =>
    .map (fun values => .triple values.1 values.2.1 values.2.2)
      (.seq3 (parser rule first) (parser rule second) (parser rule third))
  | .left first second => .left (parser rule first) (parser rule second)
  | .right first second => .right (parser rule first) (parser rule second)
  | .nthOf index terms => .nthOf index.toNat (parsers rule terms)
  | .firstOf terms => .firstOf (parsers rule terms)
  | .optional term default => .optional (parser rule term) default
  | .transform term f => .map f (parser rule term)
  | .transformOrRefuse term f => .mapOrRefuse f (parser rule term)
  | .ref name => rule name
  | .lookAhead term => .lookAhead (parser rule term)
  | .not term => .always (.not (parser rule term)) .unit
  | .entireInput term => .entireInput (parser rule term)
  | .entireInputWith term kind args => .entireInputWith (parser rule term) kind args
  | .many term => .map (fun values => collected [term] values.toList) (.many (parser rule term))
  | .many1 term => .map (fun values => collected [term] values.toList) (.many1 (parser rule term))
  | .any term => .always (.any (parser rule term)) .unit
  | .any1 term => .always (.any1 (parser rule term)) .unit
  | .iterate term count => .map (collected [term]) (.iterate (parser rule term) count.toNat)
  | .foldl term initial f => .foldl (parser rule term) initial f
  | .foldl1 term initial f => .foldl1 (parser rule term) initial f
  | .foldlFrom term first f => .foldlFrom (parser rule term) (parser rule first) f
  | .named name term => .named name (parser rule term)

/-- The parsers that several terms write down. -/
def parsers (rule : String → Parser Host) : List Term → List (Parser Host)
  | [] => []
  | first :: others => parser rule first :: parsers rule others

end

end Term

/-- Rules by name. -/
structure Grammar where
  /-- The rules, of which the first for a name counts. -/
  rules : List (String × Term) := []
deriving Inhabited

namespace Grammar

/-- The rule of a name. -/
def rule? (grammar : Grammar) (name : String) : Option Term := grammar.rules.lookup name

/-- The parser of a rule whose references may nest as deeply as the first argument says. -/
def ruleParser (grammar : Grammar) : Nat → String → Parser Host
  | 0, _ => .stop .endless
  | depth + 1, name =>
    match grammar.rule? name with
    | some term => term.parser (grammar.ruleParser depth)
    | none => .stop (.missingRule name)

/-- How deeply rules can be nested on an input without a rule being entered twice at one place. -/
def depthOn (grammar : Grammar) (input : Input) : Nat :=
  grammar.rules.length * (input.remaining + 1) + 1

/-- The parser of a term over the rules of a grammar. -/
def parser (grammar : Grammar) (term : Term) : Parser Host := fun input =>
  term.parser (grammar.ruleParser (grammar.depthOn input)) input

/-- The first defect of the rules and then of a term. -/
def defect? (grammar : Grammar) (term : Term) : Option TermDefect :=
  (Term.defectAmong? (grammar.rules.map (·.2))).or term.defect?

end Grammar

end GrammarKit
