import GrammarKit.Template.Directive
import GrammarKit.Template.Form
/-!
# Writing arguments

A directive applied to an argument: its verb is handed down to the parts that have no parts
themselves. A verb that does not suit a part is reported in place, with the kind of the part and its
usual text. In such a report nothing speaks for itself.
-/

namespace GrammarKit.Template

/-- How the parts of an argument are written. -/
structure Manner where
  /-- The directive that applies to them. -/
  directive : Directive
  /-- Whether things with a text of their own may be written by it. -/
  hearsOwnTexts : Bool
  /-- The report that the verb does not suit a part. -/
  complain : Form → String

namespace Manner

/-- The form of a part that the verb suits, or else the report about it. A complaint about a sealed
part is about the whole that seals it. -/
def settle (manner : Manner) (whole : Option Form) (part : Form) (written : Option String) :
    String :=
  written.getD (manner.complain (whole.getD part))

/-- A text of its own, or the report that there is none. -/
def ownText (manner : Manner) : Option String → String
  | some text => (manner.directive.text? text).getD ""
  | none => Expr.failureReport manner.directive.verb

mutual

/-- Writes an argument, or a part of one: `isTop` says which, and `whole` is what seals it. -/
def write (manner : Manner) (isTop : Bool) (whole : Option Form) : Form → String
  | .missing kind => if manner.directive.literal then kind ++ "(nil)" else "<nil>"
  | .truth kind truth =>
    manner.settle whole (.truth kind truth) (manner.directive.truth? truth)
  | .integer kind number bits signed =>
    manner.settle whole (.integer kind number bits signed)
      (manner.directive.integer? number bits signed)
  | .float kind number =>
    manner.settle whole (.float kind number) (manner.directive.float? number)
  | .text kind text => manner.settle whole (.text kind text) (manner.directive.text? text)
  | .sequence kind items =>
    manner.directive.enclose kind "[" "]" (writeItems manner whole items)
  | .mapping kind entries =>
    manner.directive.enclose kind "map[" "]" (writeEntries manner whole entries)
  | .compound kind isSealed parts =>
    let whole := whole.or (if isSealed then some (.compound kind isSealed parts) else none)
    manner.directive.enclose kind "\x7b" "\x7d" (writeParts manner whole parts)
  | .reference target =>
    if isTop then "&" ++ write manner false whole target
    else
      manner.settle whole (.reference target)
        (manner.directive.place? (Form.reference target).kind)
  | .speaking own form =>
    if manner.hearsOwnTexts ∧ whole.isNone ∧ manner.directive.usesOwnText then
      manner.ownText (own ())
    else write manner isTop whole form

/-- Writes the items of a sequence. -/
def writeItems (manner : Manner) (whole : Option Form) : List Form → List String
  | [] => []
  | first :: others => write manner false whole first :: writeItems manner whole others

/-- Writes the entries of a mapping. -/
def writeEntries (manner : Manner) (whole : Option Form) : List (Form × Form) → List String
  | [] => []
  | (key, item) :: others =>
    (write manner false whole key ++ ":" ++ write manner false whole item) ::
      writeEntries manner whole others

/-- Writes the parts of a compound, with their names when they are asked for. -/
def writeParts (manner : Manner) (whole : Option Form) : List (String × Form) → List String
  | [] => []
  | (name, part) :: others =>
    manner.directive.labelPart name (write manner false whole part) ::
      writeParts manner whole others

end

end Manner

namespace Directive

/-- The usual text of an argument with the flags of the directive; nothing speaks for itself. -/
def usual (directive : Directive) (form : Form) : String :=
  Manner.write ⟨{ directive with verb := 'v' }, false, fun _ => ""⟩ true none form

/-- The report that the verb does not suit an argument. -/
def unsuited (directive : Directive) (form : Form) : String :=
  "%!" ++ directive.verb.toString ++ "(" ++ form.kind ++ "=" ++ directive.usual form ++ ")"

/-- Whether something is held at a place of its own in memory. -/
def isHeld : Form → Bool
  | .reference _ | .sequence .. | .mapping .. => true
  | .speaking _ form => isHeld form
  | _ => false

/-- A whole argument: two verbs write the name of its kind and its place, the verb of causes suits
no argument, and nothing at all has only its usual form. -/
def argument (directive : Directive) (host : Host) : String :=
  match host with
  | .absent =>
    if directive.verb = 'v' ∨ directive.verb = 'T' then directive.pad "<nil>"
    else "%!" ++ directive.verb.toString ++ "(<nil>)"
  | host =>
    let form := Form.ofHost host
    match directive.verb with
    | 'T' => directive.pad (directive.cut form.kind)
    | 'w' => directive.unsuited form
    | 'p' =>
      if isHeld form then (directive.place? form.kind).getD "" else directive.unsuited form
    | _ => Manner.write ⟨directive, true, directive.unsuited⟩ true none form

end Directive

end GrammarKit.Template
