import GrammarKit.Document.Yaml.Cursor
import GrammarKit.Number.Numeral
/-!
# Scalars that flow over lines

Plain and quoted scalars may go on over several lines. A line feed between two lines counts as a
space, and of several breaks the first does not count; white space around the breaks does not count
either. A break of a wider character set counts as itself.
-/

namespace GrammarKit.Document.Yaml

/-- White space that has been met and not yet been written. -/
inductive Pending where
  /-- Spaces and tabs within a line, in reverse. -/
  | gaps (symbols : List Char)
  /-- Line breaks: the first, and the others in reverse. -/
  | breaks (first : Char) (others : List Char)
  /-- Line breaks after one that was escaped, in reverse. -/
  | joined (others : List Char)

namespace Pending

/-- The white space as it is written, in reverse. -/
def written : Pending → List Char
  | .gaps symbols => symbols
  | .breaks first others =>
    if first = '\n' then (if others.isEmpty then [' '] else others) else others ++ [first]
  | .joined others => others

/-- One more space or tab. -/
def addGap (pending : Pending) (symbol : Char) : Pending :=
  match pending with
  | .gaps symbols => .gaps (symbol :: symbols)
  | other => other

/-- One more line break, by what it adds to the text. -/
def addBreak (pending : Pending) : Option Char → Pending
  | none => pending
  | some symbol =>
    match pending with
    | .gaps _ => .breaks symbol []
    | .breaks first others => .breaks first (symbol :: others)
    | .joined others => .joined (symbol :: others)

/-- Whether nothing has been met. -/
def isNone : Pending → Bool
  | .gaps symbols => symbols.isEmpty
  | _ => false

/-- Whether a line has been ended. -/
def endsLine : Pending → Bool
  | .gaps _ => false
  | _ => true

end Pending

/-- A scalar that has been read. -/
structure Scanned where
  /-- The text. -/
  text : String
  /-- The place after it and after the white space that follows. -/
  after : Cursor
  /-- Whether that white space ends a line. -/
  endsLine : Bool := false

/-- The characters that have a meaning inside of brackets and braces. -/
def isFlowMark (symbol : Char) : Bool := symbol ∈ [',', '?', '[', ']', '\x7b', '\x7d']

/-- Reads a plain scalar. `written` is what has been read, in reverse. Outside of brackets, lines
after the first have to reach the column `indent`; a tab in front of that column is an error. -/
def plainFrom (flow : Bool) (indent : Int) :
    List Char → Place → (written : List Char) → Pending → Option Scanned
  | [], place, written, pending =>
    some ⟨String.ofList written.reverse, ⟨[], place⟩, pending.endsLine⟩
  | symbol :: rest, place, written, pending =>
    let done : Option Scanned :=
      some ⟨String.ofList written.reverse, ⟨symbol :: rest, place⟩, pending.endsLine⟩
    if isBreak symbol then
      plainFrom flow indent rest (place.after symbol rest) written
        (pending.addBreak (breakText symbol rest))
    else if isGap symbol then
      if symbol = '\t' ∧ pending.endsLine ∧ (place.column : Int) < indent then none
      else
        plainFrom flow indent rest (place.after symbol rest) written (pending.addGap symbol)
    else if pending.endsLine ∧ !flow ∧ (place.column : Int) < indent then done
    else if !pending.isNone ∧ (symbol = '#' ∨ Cursor.atMarker ⟨symbol :: rest, place⟩) then done
    else if symbol = ':' ∧ startsBlank rest then done
    else if flow ∧ isFlowMark symbol then done
    else
      plainFrom flow indent rest (place.after symbol rest)
        (symbol :: (pending.written ++ written)) (.gaps [])

/-- Whether a plain scalar can start here. -/
def startsPlain (flow : Bool) : List Char → Bool
  | [] => false
  | symbol :: rest =>
    if symbol = '-' then !startsBlank rest
    else if symbol = '?' ∨ symbol = ':' then !flow && !startsBlank rest
    else
      !isBlank symbol &&
        !(symbol ∈ [',', '[', ']', '\x7b', '\x7d', '#', '&', '*', '!', '|', '>', '\x27', '"', '%',
          '@', '\x60'])

/-- Reads a plain scalar. -/
def Cursor.plain? (cursor : Cursor) (flow : Bool) (indent : Int) : Option Scanned :=
  plainFrom flow indent cursor.rest cursor.place [] (.gaps [])

/-- The character that a letter after a backslash stands for. -/
def escaped? : Char → Option Char
  | '0' => some '\x00'
  | 'a' => some '\x07'
  | 'b' => some '\x08'
  | 't' | '\t' => some '\t'
  | 'n' => some '\n'
  | 'v' => some '\x0B'
  | 'f' => some '\x0C'
  | 'r' => some '\r'
  | 'e' => some '\x1B'
  | ' ' => some ' '
  | '"' => some '"'
  | '\x27' => some '\x27'
  | '\\' => some '\\'
  | 'N' => some '\u0085'
  | '_' => some '\u00A0'
  | 'L' => some '\u2028'
  | 'P' => some '\u2029'
  | _ => none

/-- How many hexadecimal digits follow a letter after a backslash. -/
def escapeLength? : Char → Option Nat
  | 'x' => some 2
  | 'u' => some 4
  | 'U' => some 8
  | _ => none

/-- The character that a code in hexadecimal digits stands for. -/
def coded? (length : Nat) (symbols : List Char) : Option Char :=
  let digits := symbols.take length
  if digits.length = length then
    (Number.natural? 16 digits).bind fun code =>
      if code.isValidChar then some (Char.ofNat code) else none
  else none

/-- The character that an escape stands for, and how many characters it takes after the
backslash. -/
def escape? (mark : Char) (rest : List Char) : Option (Char × Nat) :=
  match escaped? mark with
  | some symbol => some (symbol, 1)
  | none => do
    let length ← escapeLength? mark
    return (← coded? length rest, length + 1)

/-- Reads the rest of a quoted scalar. Between single quotation marks two of them stand for one;
between double ones a backslash starts an escape, and at the end of a line it joins the lines. One
of the marks that bound a document is an error at the start of a line. The first argument bounds the
steps; every step moves on. -/
def quotedFrom (mark : Char) :
    Nat → Cursor → (written : List Char) → Pending → Option Scanned
  | 0, _, _, _ => none
  | steps + 1, cursor, written, pending =>
    match cursor.rest with
    | [] => none
    | symbol :: rest =>
      let flushed := pending.written ++ written
      if isBreak symbol then
        quotedFrom mark steps cursor.advance written (pending.addBreak (breakText symbol rest))
      else if isGap symbol then
        quotedFrom mark steps cursor.advance written (pending.addGap symbol)
      else if !pending.isNone ∧ cursor.atMarker then none
      else if symbol = mark ∧ mark = '\x27' ∧ rest.head? = some mark then
        quotedFrom mark steps cursor.advance.advance (mark :: flushed) (.gaps [])
      else if symbol = mark then some ⟨String.ofList flushed.reverse, cursor.advance, false⟩
      else if symbol = '\\' ∧ mark = '"' then
        match rest with
        | [] => none
        | letter :: others =>
          if isBreak letter then
            quotedFrom mark steps cursor.advance.skipBreak flushed (.joined [])
          else
            match escape? letter others with
            | some (found, length) =>
              quotedFrom mark steps (cursor.advanceBy (length + 1)) (found :: flushed) (.gaps [])
            | none => none
      else quotedFrom mark steps cursor.advance (symbol :: flushed) (.gaps [])

/-- Reads a quoted scalar from its mark on. -/
def Cursor.quoted? (cursor : Cursor) (mark : Char) : Option Scanned :=
  quotedFrom mark (cursor.rest.length + 1) cursor.advance [] (.gaps [])

end GrammarKit.Document.Yaml
