import GrammarKit.Number.Numeral
/-!
# Quoted texts

Texts between quotation marks, on one line or over several. Between double marks a backslash starts
an escape; between single marks every character stands for itself. Every reader takes a text from
the front and gives back what is left.
-/

namespace GrammarKit.Document.Toml

/-- Whether a character may stand in a text or a comment: no control character but the tab. -/
def isTextSymbol (symbol : Char) : Bool :=
  symbol == '\t' || (' ' ≤ symbol && symbol != '\x7F')

/-- Whether a character is a space or a tab. -/
def isGap (symbol : Char) : Bool := symbol == ' ' || symbol == '\t'

/-- Skips spaces and tabs. -/
def skipGap (symbols : List Char) : List Char := symbols.dropWhile isGap

/-- Reads a line break. -/
def takeBreak : List Char → Option (List Char)
  | '\n' :: rest => some rest
  | '\r' :: '\n' :: rest => some rest
  | _ => none

/-- The character that a letter after a backslash stands for. -/
def escaped? : Char → Option Char
  | '"' => some '"'
  | '\\' => some '\\'
  | 'b' => some '\x08'
  | 'f' => some '\x0C'
  | 'n' => some '\n'
  | 'r' => some '\r'
  | 't' => some '\t'
  | 'e' => some '\x1B'
  | _ => none

/-- Reads the code of a character in so many hexadecimal digits. -/
def takeCode (length : Nat) (symbols : List Char) : Option (Char × List Char) := do
  let digits := symbols.take length
  if digits.length < length then none
  let code ← Number.natural? 16 digits
  if code.isValidChar then return (Char.ofNat code, symbols.drop length) else none

/-- Reads an escape after its backslash. -/
def takeEscape : List Char → Option (Char × List Char)
  | [] => none
  | 'u' :: rest => takeCode 4 rest
  | 'U' :: rest => takeCode 8 rest
  | mark :: rest => (escaped? mark).map fun symbol => (symbol, rest)

/-- Reads the rest of a text between double marks on one line. `written` is what has been read, in
reverse. The first argument bounds the steps; every step reads a character. -/
def basicFrom : Nat → (written : List Char) → List Char → Option (String × List Char)
  | 0, _, _ => none
  | _, _, [] => none
  | _, written, '"' :: rest => some (String.ofList written.reverse, rest)
  | steps + 1, written, '\\' :: rest => do
    let (symbol, rest) ← takeEscape rest
    basicFrom steps (symbol :: written) rest
  | steps + 1, written, symbol :: rest =>
    if isTextSymbol symbol then basicFrom steps (symbol :: written) rest else none

/-- Reads the rest of a text between single marks on one line. -/
def literalFrom : (written : List Char) → List Char → Option (String × List Char)
  | _, [] => none
  | written, symbol :: rest =>
    if symbol = '\x27' then some (String.ofList written.reverse, rest)
    else if isTextSymbol symbol then literalFrom (symbol :: written) rest
    else none

/-- Reads the end of a text over several lines: three marks. One or two more in front of them belong
to the text. -/
def takeClosing (mark : Char) (symbols : List Char) : Option (Nat × List Char) :=
  let marks := symbols.takeWhile (· == mark)
  if 3 ≤ marks.length ∧ marks.length ≤ 5 then
    some (marks.length - 3, symbols.drop marks.length)
  else none

/-- Skips white space and line breaks. A carriage return counts only in front of a line feed. -/
def skipBreaks : List Char → List Char
  | '\r' :: '\n' :: rest => skipBreaks rest
  | symbol :: rest => if isGap symbol || symbol == '\n' then skipBreaks rest else symbol :: rest
  | [] => []

/-- A backslash at the end of a line takes all white space up to the next character with it: the
rest of the text after that, if a line does end here. -/
def takeContinuation (symbols : List Char) : Option (List Char) :=
  (takeBreak (skipGap symbols)).map skipBreaks

/-- Reads the rest of a text over several lines. Between double marks escapes count. The first
argument bounds the steps; every step reads a character. -/
def multilineFrom (mark : Char) :
    Nat → (written : List Char) → List Char → Option (String × List Char)
  | 0, _, _ => none
  | _, _, [] => none
  | steps + 1, written, symbol :: rest =>
    if symbol = mark then
      let marks := (symbol :: rest).takeWhile (· == mark)
      if marks.length < 3 then multilineFrom mark steps (symbol :: written) rest
      else do
        let (count, rest) ← takeClosing mark (symbol :: rest)
        return (String.ofList (List.replicate count mark ++ written).reverse, rest)
    else if symbol = '\\' ∧ mark = '"' then
      match takeContinuation rest with
      | some after => multilineFrom mark steps written after
      | none => do
        let (found, rest) ← takeEscape rest
        multilineFrom mark steps (found :: written) rest
    else if symbol = '\n' then multilineFrom mark steps (symbol :: written) rest
    else if symbol = '\r' then
      match rest with
      | '\n' :: after => multilineFrom mark steps ('\n' :: '\r' :: written) after
      | _ => none
    else if isTextSymbol symbol then multilineFrom mark steps (symbol :: written) rest
    else none

/-- Reads a text on one line, if a quotation mark stands here. -/
def takeQuoted : List Char → Option (String × List Char)
  | '"' :: rest => basicFrom (rest.length + 1) [] rest
  | '\x27' :: rest => literalFrom [] rest
  | _ => none

/-- Reads a text on one line or over several. A line break right after the opening marks does not
count. -/
def takeText (symbols : List Char) : Option (String × List Char) :=
  let opening := symbols.take 3
  let body := symbols.drop 3
  let start := (takeBreak body).getD body
  if opening = ['"', '"', '"'] then multilineFrom '"' (start.length + 1) [] start
  else if opening = ['\x27', '\x27', '\x27'] then
    multilineFrom '\x27' (start.length + 1) [] start
  else takeQuoted symbols

end GrammarKit.Document.Toml
