import GrammarKit.Document.Yaml.Flowing
/-!
# Block scalars

A block scalar is made of the lines below its mark, without the margin that they share. Its lines
are kept as they are, or folded: then a line feed between two lines that do not start with white
space counts as a space. The breaks at the end are dropped, cut to one, or kept.
-/

namespace GrammarKit.Document.Yaml

/-- What becomes of the line breaks at the end. -/
inductive Chomping where
  /-- They are dropped. -/
  | strip
  /-- One stays. -/
  | clip
  /-- All stay. -/
  | keep
deriving DecidableEq, Repr

/-- The head of a block scalar: what follows its mark on the same line. -/
structure BlockHead where
  /-- What becomes of the breaks at the end. -/
  chomping : Chomping := .clip
  /-- How much further than its surroundings the text is indented, if the head says so. -/
  margin : Option Nat := none

/-- The chomping that a sign stands for. -/
def chomping? : List Char → Option Chomping
  | '+' :: _ => some .keep
  | '-' :: _ => some .strip
  | _ => none

/-- The margin that a digit stands for: nothing if there is no digit. A zero is an error. -/
def margin? : List Char → Option (Option Nat)
  | symbol :: _ =>
    if symbol = '0' then none
    else some (if symbol.isDigit then some (symbol.toNat - 48) else none)
  | [] => some none

/-- Reads a sign and a digit, each at most once and in any order. -/
def BlockHead.take (cursor : Cursor) : Option (BlockHead × Cursor) := do
  match chomping? cursor.rest with
  | some chomping =>
    let cursor := cursor.advance
    let margin ← margin? cursor.rest
    return (⟨chomping, margin⟩, if margin.isSome then cursor.advance else cursor)
  | none =>
    let margin ← margin? cursor.rest
    if margin.isNone then return ({}, cursor)
    let cursor := cursor.advance
    match chomping? cursor.rest with
    | some chomping => return (⟨chomping, margin⟩, cursor.advance)
    | none => return (⟨.clip, margin⟩, cursor)

/-- The white space in front of a line that says something. -/
structure Lead where
  /-- What comes after it. -/
  after : Cursor
  /-- The widest column that a line of it reaches. -/
  widest : Nat
  /-- The breaks of its lines, in reverse. -/
  breaks : List Char

/-- Reads empty lines and the spaces of a margin, which goes up to a column, or as far as it gets
when the column is not known yet. A tab in the margin is an error. -/
def leadFrom (column? : Option Nat) : List Char → Place → (widest : Nat) → (breaks : List Char) →
    Option Lead
  | [], place, widest, breaks => some ⟨⟨[], place⟩, max widest place.column, breaks⟩
  | symbol :: rest, place, widest, breaks =>
    let inMargin : Bool :=
      match column? with
      | none => true
      | some column => decide (place.column < column)
    let widest := max widest place.column
    if inMargin ∧ symbol = ' ' then leadFrom column? rest (place.after symbol rest) widest breaks
    else if inMargin ∧ symbol = '\t' then none
    else if isBreak symbol then
      leadFrom column? rest (place.after symbol rest) widest
        ((breakText symbol rest).toList ++ breaks)
    else some ⟨⟨symbol :: rest, place⟩, widest, breaks⟩

/-- Reads the white space in front of a line of a block scalar. -/
def Cursor.lead? (cursor : Cursor) (column? : Option Nat) : Option Lead :=
  leadFrom column? cursor.rest cursor.place 0 []

/-- What has been read of a block scalar. -/
structure Joining where
  /-- What has been written, in reverse. -/
  written : List Char := []
  /-- The break after the last line, if there is one. -/
  ending : List Char := []
  /-- The breaks of the empty lines after it, in reverse. -/
  emptyLines : List Char := []
  /-- Whether the last line started with white space. -/
  afterGap : Bool := false

/-- Adds a line. -/
def Joining.add (joining : Joining) (folded : Bool) (line ending : List Char) : Joining :=
  let startsWithGap := (line.head?.map isGap).getD false
  let folds := folded && !joining.afterGap && !startsWithGap && joining.ending == ['\n']
  let between :=
    if folds then (if joining.emptyLines.isEmpty then [' '] else []) else joining.ending
  { written := line.reverse ++ joining.emptyLines ++ between ++ joining.written,
    ending, emptyLines := [], afterGap := startsWithGap }

/-- What has been read, with the breaks at the end as the head says. -/
def Joining.finish (joining : Joining) (chomping : Chomping) : String :=
  let tail :=
    match chomping with
    | .strip => []
    | .clip => joining.ending
    | .keep => joining.emptyLines ++ joining.ending
  String.ofList (tail ++ joining.written).reverse

/-- Reads the lines that stand at a column. The first argument bounds their number. -/
def joinLines (folded : Bool) (column : Nat) :
    Nat → Cursor → Joining → Option (Joining × Cursor)
  | 0, cursor, joining => some (joining, cursor)
  | count + 1, cursor, joining =>
    if cursor.place.column ≠ column ∨ cursor.rest.isEmpty then some (joining, cursor)
    else do
      let (line, cursor) := cursor.takeWhile fun symbol => !isBreak symbol
      let ending :=
        match cursor.rest with
        | symbol :: rest => [(breakText symbol rest).getD '\n']
        | [] => []
      let lead ← cursor.skipBreak.lead? (some column)
      joinLines folded column count lead.after
        { joining.add folded line ending with emptyLines := lead.breaks }

/-- Reads a block scalar from its mark on; `parent` is the column of what holds it. -/
def Cursor.block? (cursor : Cursor) (folded : Bool) (parent : Int) : Option Scanned := do
  let (head, cursor) ← BlockHead.take cursor.advance
  let cursor := cursor.skipGap.skipComment
  if !startsBreak cursor.rest then none
  let column? := head.margin.map (parent.toNat + ·)
  let lead ← cursor.skipBreak.lead? column?
  let column := column?.getD (max lead.widest (max (parent + 1).toNat 1))
  let (joining, after) ←
    joinLines folded column (cursor.rest.length + 1) lead.after { emptyLines := lead.breaks }
  return ⟨joining.finish head.chomping, after, false⟩

end GrammarKit.Document.Yaml
