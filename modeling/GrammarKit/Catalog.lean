import GrammarKit.Template.Basic
/-!
# Catalogs of messages

A catalog gives each kind of parse error a message template. A kind without a template shows as its
own name.
-/

namespace GrammarKit

/-! The kinds of error that the parsers of this library create. A grammar may use any other name. -/

namespace ErrorKind

/-- A symbol that is not in a range. -/
def unexpectedCharacter : String := "unexpected_character"

/-- A symbol was needed and none was left. -/
def unexpectedEndOfInput : String := "unexpected_end_of_input"

/-- A literal was needed and something else stood there. -/
def literalExpected : String := "literal_expected"

/-- A digit was needed. -/
def digitExpected : String := "digit_expected"

/-- A letter was needed. -/
def letterExpected : String := "letter_expected"

/-- White space was needed. -/
def whitespaceExpected : String := "whitespace_expected"

/-- Nothing more was expected. -/
def endOfInputExpected : String := "end_of_input_expected"

/-- A choice without alternatives. -/
def noneOfTheExpectedCasesFound : String := "none_of_the_expected_cases_found"

/-- Something was there that must not be. -/
def unexpectedSuccess : String := "unexpected_success"

/-- A value that could not be converted. -/
def transformFailed : String := "transform_failed"

end ErrorKind

/-- Message templates by kind of error. -/
structure Catalog where
  /-- The templates, of which the first for a kind counts. -/
  templates : List (String × String)
deriving DecidableEq, Repr, Inhabited

namespace Catalog

/-- The template of a kind. -/
def template? (catalog : Catalog) (kind : String) : Option String := catalog.templates.lookup kind

/-- The catalog in which a kind has the given template. -/
def withTemplate (catalog : Catalog) (kind template : String) : Catalog :=
  ⟨(kind, template) :: catalog.templates⟩

/-- The catalog with the templates of another on top. -/
def merge (catalog other : Catalog) : Catalog := ⟨other.templates ++ catalog.templates⟩

/-- The message of a kind with its arguments filled in. -/
def message (catalog : Catalog) (kind : String) (args : List Host) : String :=
  match catalog.template? kind with
  | some template => fillTemplate template args
  | none => kind

/-- The messages of the kinds that the parsers of this library create. A parser that tests a value
passes the value it refused first and its own arguments after it. -/
def standard : Catalog where
  templates :=
    [(ErrorKind.unexpectedCharacter, "Unexpected character `%v`"),
      (ErrorKind.unexpectedEndOfInput, "Unexpected end of input"),
      (ErrorKind.literalExpected, "Expected `%[2]v` but got `%[1]v`"),
      (ErrorKind.digitExpected, "Expected digit but got `%v`"),
      (ErrorKind.letterExpected, "Expected letter but got `%v`"),
      (ErrorKind.whitespaceExpected, "Expected whitespace but got `%v`"),
      (ErrorKind.endOfInputExpected, "Expected end of input but got `%v`"),
      (ErrorKind.noneOfTheExpectedCasesFound, "None of the expected cases found"),
      (ErrorKind.unexpectedSuccess, "Unexpected `%v`"),
      (ErrorKind.transformFailed, "%v")]

end Catalog

end GrammarKit
