import GrammarKit.Number.Numeral
import GrammarKit.Parser.Repeat
import GrammarKit.Text.Blank
import GrammarKit.Text.Letter
/-!
# Parsers of symbols

The parsers that look at single symbols, and those for literals, white space and whole numbers that
are built from them.
-/

namespace GrammarKit.Parser

variable {α β : Type}

/-- Accepts any symbol. -/
def oneChar : Parser CodePoint := fun input =>
  match input.peek? with
  | some symbol => { verdict := .accept (CodePoint.ofChar symbol) (input.past symbol) }
  | none => { verdict := .reject (input.fail ErrorKind.unexpectedEndOfInput []) }

/-- Accepts the symbol with a given code. -/
def lit (code : CodePoint) : Parser CodePoint :=
  acceptWhen oneChar (· == code) ErrorKind.literalExpected [.text code.text]

/-- Accepts the symbols of a text in order; `expected` are those still to come. An error is where
the first symbol differs. -/
def litStringFrom (text : String) : List Char → Parser String
  | [] => pure text
  | wanted :: others => fun input =>
    match input.peek? with
    | none =>
      { verdict := .reject
          (input.fail ErrorKind.literalExpected [.text "end of input", .text text]) }
    | some symbol =>
      if symbol = wanted then litStringFrom text others (input.past symbol)
      else
        { verdict := .reject
            (input.fail ErrorKind.literalExpected
              [.text (String.singleton symbol), .text text]) }

/-- Accepts the symbols of a text in order. -/
def litString (text : String) : Parser String := litStringFrom text text.toList

/-- Accepts a symbol whose code lies between two others, both included. -/
def range (low high : CodePoint) : Parser CodePoint :=
  acceptWhen oneChar (fun code => low ≤ code && code ≤ high) ErrorKind.unexpectedCharacter []

/-- Accepts a decimal digit of ASCII. -/
def digit : Parser CodePoint :=
  acceptWhen oneChar (fun code => code.toChar.isDigit) ErrorKind.digitExpected []

/-- Accepts any letter. -/
def letter : Parser CodePoint :=
  acceptWhen oneChar (fun code => Text.isLetter code.toChar) ErrorKind.letterExpected []

/-- Accepts a lower-case letter of ASCII. -/
def lowerLetter : Parser CodePoint :=
  acceptWhen oneChar (fun code => code.toChar.isLower) ErrorKind.letterExpected []

/-- Accepts an upper-case letter of ASCII. -/
def upperLetter : Parser CodePoint :=
  acceptWhen oneChar (fun code => code.toChar.isUpper) ErrorKind.letterExpected []

/-- Accepts a blank. -/
def space : Parser CodePoint :=
  acceptWhen oneChar (fun code => Text.isBlank code.toChar) ErrorKind.whitespaceExpected []

/-- Accepts one or more blanks. -/
def spaces : Parser Unit := any1 space

/-- Accepts a decimal digit and gives its value. -/
def digitValue : Parser Int64 := map (fun code => Int64.ofInt (code.toInt - 48)) digit

/-- Reads a numeral, refusing it with a reason. -/
def readInteger (text : String) : Except Refusal Int64 :=
  match Number.int64? text with
  | .ok number => .ok number
  | .error problem => .error (.reason (Number.numeralReason text problem))

/-- Accepts one or more decimal digits and gives the number they write, if it is not too big. -/
def int : Parser Int64 :=
  mapOrRefuse (fun codes => readInteger (CodePoint.textOf codes.toList)) (many1 digit)

/-- Accepts a symbol and gives a fixed value. -/
def alwaysSymbol (code : CodePoint) (value : β) : Parser β := always (lit code) value

/-- Skips the blanks after what a parser accepts. -/
def token (parser : Parser α) : Parser α := left parser (any space)

end GrammarKit.Parser
