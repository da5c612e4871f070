import GrammarKit.Host
/-!
# The makeup of arguments

Directives see an argument only by its makeup: what kind of thing it is and which parts it has, each
with a name where parts have names. A thing may also speak for itself, which is to say that it has a
text of its own. Parts may be sealed: they are shown, but they do not speak for themselves, and a
complaint about one of them is a complaint about the whole that seals it.
-/

namespace GrammarKit.Template

/-- What an argument is made of. Every `kind` is the name that complaints call it by. -/
inductive Form where
  /-- Nothing, where something of a kind could stand. -/
  | missing (kind : String)
  /-- A truth value. -/
  | truth (kind : String) (truth : Bool)
  /-- An integer and its 64 bits read without a sign; `signed` when it could be below zero. -/
  | integer (kind : String) (number : Int) (bits : Nat) (signed : Bool)
  /-- A floating-point number. -/
  | float (kind : String) (number : Float)
  /-- A text. -/
  | text (kind : String) (text : String)
  /-- Parts in sequence. -/
  | sequence (kind : String) (items : List Form)
  /-- A mapping, in the order of its keys. -/
  | mapping (kind : String) (entries : List (Form × Form))
  /-- Parts with names. -/
  | compound (kind : String) (isSealed : Bool) (parts : List (String × Form))
  /-- A thing that is held elsewhere; its parts show only where it is the whole argument. -/
  | reference (target : Form)
  /-- A thing with a text of its own; the text may be undefined. -/
  | speaking (own : Unit → Option String) (form : Form)

namespace Form

/-- The name of the kind of an argument. -/
def kind : Form → String
  | .missing name => name
  | .truth name _ => name
  | .integer name .. => name
  | .float name _ => name
  | .text name _ => name
  | .sequence name _ => name
  | .mapping name _ => name
  | .compound name .. => name
  | .reference target => "*" ++ target.kind
  | .speaking _ form => form.kind

/-- An integer of a kind that has a sign. -/
def signed (kind : String) (number : Int64) : Form :=
  .integer kind number.toInt number.toUInt64.toNat true

/-- The code of a symbol. -/
def code (kind : String) (code : CodePoint) : Form :=
  .integer kind code.toInt code.toInt64.toUInt64.toNat true

/-- A compound that is held elsewhere and has a text of its own. -/
def held (kind : String) (own : Unit → Option String) (parts : List (String × Form)) : Form :=
  .speaking own (.reference (.compound kind false parts))

/-- A sealed compound with a text of its own. -/
def sealedAway (kind : String) (own : Unit → Option String) (parts : List (String × Form)) : Form :=
  .speaking own (.compound kind true parts)

/-- A name. -/
def name (name : String) : Form := .text "string" name

/-- A tag. -/
def tag (tag : String) : Form := .text "monad.Tag" tag

mutual

/-- The makeup of a host value. -/
def ofHost : Host → Form
  | .bool flag => .truth "bool" flag
  | .int number => signed "int" number
  | .wide number => signed "int64" number
  | .octet number => .integer "uint8" number.toNat number.toNat false
  | .unsigned number => .integer "uint64" number.toNat number.toNat false
  | .float number => .float "float64" number
  | .text content => .text "string" content
  | .symbol symbol => code "int32" symbol
  | .symbols codes => .sequence "[]int32" (codes.map (code "int32"))
  | .absent => .missing "interface \x7b\x7d"
  | .unit => .compound (Host.kindName .unit) false []
  | .list items => .sequence (Host.kindName (.list [])) (ofHosts items)
  | .record entries => .mapping (Host.kindName (.record [])) (ofRecord entries)
  | .table entries => .mapping (Host.kindName (.table [])) (ofTable entries)
  | .moment time => sealedAway time.kindName (fun _ => some time.text) []
  | .value value => ofValue value
  | .expr expression => ofExpr expression
  | .pair first second =>
    .speaking (fun _ => some (Host.pair first second).render)
      (.compound (Host.kindName (.pair .unit .unit)) false
        [("First", ofHost first), ("Second", ofHost second)])
  | .triple first second third =>
    .compound (Host.kindName (.triple .unit .unit .unit)) false
      [("First", ofHost first), ("Second", ofHost second), ("Third", ofHost third)]
termination_by host => sizeOf host
decreasing_by all_goals (simp <;> omega)

/-- The makeup of the items of a list. -/
def ofHosts : List Host → List Form
  | [] => []
  | first :: others => ofHost first :: ofHosts others
termination_by hosts => sizeOf hosts
decreasing_by all_goals (simp <;> omega)

/-- The makeup of the entries of a mapping from texts. -/
def ofRecord : List (String × Host) → List (Form × Form)
  | [] => []
  | (key, item) :: others => (name key, ofHost item) :: ofRecord others
termination_by entries => sizeOf entries
decreasing_by all_goals (simp <;> omega)

/-- The makeup of the entries of a mapping. -/
def ofTable : List (Host × Host) → List (Form × Form)
  | [] => []
  | (key, item) :: others => (ofHost key, ofHost item) :: ofTable others
termination_by entries => sizeOf entries
decreasing_by all_goals (simp <;> omega)

/-- The makeup of a value of the expression language. Scalars are plain, the others are held
elsewhere. -/
def ofValue : Value Host → Form
  | .int number => .speaking (fun _ => some (Value.int number : Value Host).text)
      (signed "monad.Int" number)
  | .bool flag => .speaking (fun _ => some (Value.bool flag : Value Host).text)
      (.truth "monad.Bool" flag)
  | .char symbol => .speaking (fun _ => some (Value.char symbol : Value Host).text)
      (code "monad.Char" symbol)
  | .string content => .speaking (fun _ => some (Value.string content : Value Host).text)
      (.text "monad.String" content)
  | .symbol content => .speaking (fun _ => some content) (.text "monad.Symbol" content)
  | .box payload =>
    held "monad.Box" (fun _ => some (Value.box payload).text) [("V", ofHost payload)]
  | .data name ownTag args =>
    held "monad.Data" (fun _ => some (Value.data name ownTag args).text)
      [("Name", Form.name name), ("DataTag", tag ownTag),
        ("Args", .sequence "[]monad.Value" (ofValues args))]
  | .list items =>
    held "monad.List" (fun _ => some (Value.list items).text)
      [("Items", .sequence "[]monad.Value" (ofValues items))]
  | .exception raised =>
    held "monad.Exception" (fun _ => some (Value.exception raised).text)
      [("Value", ofValue raised)]
termination_by value => sizeOf value
decreasing_by all_goals simp +arith

/-- The makeup of values one by one. -/
def ofValues : List (Value Host) → List Form
  | [] => []
  | first :: others => ofValue first :: ofValues others
termination_by values => sizeOf values
decreasing_by all_goals (simp <;> omega)

/-- The makeup of a pattern. -/
def ofPattern : Pattern Host → Form
  | .lit value =>
    sealedAway "monad.litPattern" (fun _ => some value.text) [("value", ofValue value)]
  | .var name =>
    sealedAway "monad.varPattern" (fun _ => some (Pattern.var name : Pattern Host).text)
      [("name", Form.name name)]
  | .any => sealedAway "monad.anyPattern" (fun _ => some (Pattern.any : Pattern Host).text) []
  | .tagged wanted =>
    sealedAway "monad.tagPattern" (fun _ => some (Pattern.tagged wanted : Pattern Host).text)
      [("tag", tag wanted)]
  | .data name wantedTag args =>
    sealedAway "monad.dataPattern" (fun _ => some (Pattern.data name wantedTag args).text)
      [("name", Form.name name), ("tag", tag wantedTag),
        ("args", .sequence "[]monad.Pattern" (ofPatterns args))]
  | .list items =>
    sealedAway "monad.listPattern" (fun _ => some (Pattern.list items).text)
      [("items", .sequence "[]monad.Pattern" (ofPatterns items))]
  | .exception raised =>
    sealedAway "monad.exceptionPattern" (fun _ => some (Pattern.exception raised).text)
      [("value", ofPattern raised)]
termination_by pattern => sizeOf pattern
decreasing_by all_goals simp +arith

/-- The makeup of patterns one by one. -/
def ofPatterns : List (Pattern Host) → List Form
  | [] => []
  | first :: others => ofPattern first :: ofPatterns others
termination_by patterns => sizeOf patterns
decreasing_by all_goals (simp <;> omega)

/-- The makeup of an expression. -/
def ofExpr : Expr Host → Form
  | .absent => .missing "monad.Expr"
  | .lit value =>
    held "monad.LitNode" (fun _ => some value.text) [("Value", ofValue value)]
  | .var name => held "monad.VarNode" (fun _ => some name) [("Name", Form.name name)]
  | .call function args =>
    held "monad.CallNode" (fun _ => (Expr.call function args).text?)
      [("Func", Form.name function), ("Args", .sequence "[]monad.Expr" (ofExprs args))]
  | .construct name ownTag args =>
    held "monad.ConstructNode" (fun _ => (Expr.construct name ownTag args).text?)
      [("Name", Form.name name), ("Tag", tag ownTag),
        ("Args", .sequence "[]monad.Expr" (ofExprs args))]
  | .ifThenElse condition yes no =>
    held "monad.IfNode" (fun _ => (Expr.ifThenElse condition yes no).text?)
      [("Cond", ofExpr condition), ("Then", ofExpr yes), ("Else", ofExpr no)]
  | .letIn name value body =>
    held "monad.LetNode" (fun _ => (Expr.letIn name value body).text?)
      [("Name", Form.name name), ("Value", ofExpr value), ("Body", ofExpr body)]
  | .letAll bindings body =>
    held "monad.MultiLetNode" (fun _ => (Expr.letAll bindings body).text?)
      [("Bindings", .sequence "[]monad.Binding" (ofBindings bindings)), ("Body", ofExpr body)]
  | .case subject clauses =>
    held "monad.CaseNode" (fun _ => (Expr.case subject clauses).text?)
      [("Subject", ofExpr subject), ("Clauses", .sequence "[]monad.Clause" (ofClauses clauses))]
  | .raise value =>
    held "monad.RaiseNode" (fun _ => (Expr.raise value).text?) [("Value", ofExpr value)]
  | .attempt body catches =>
    held "monad.TryNode" (fun _ => (Expr.attempt body catches).text?)
      [("Body", ofExpr body), ("Catches", .sequence "[]monad.Catch" (ofCatches catches))]
  | .lift context value =>
    held "monad.ReturnNode" (fun _ => (Expr.lift context value).text?)
      [("Tag", tag context), ("Value", ofExpr value)]
  | .bind context value name body =>
    held "monad.BindNode" (fun _ => (Expr.bind context value name body).text?)
      [("Tag", tag context), ("Value", ofExpr value), ("Name", Form.name name),
        ("Body", ofExpr body)]
  | .block context steps =>
    held "monad.DoNode" (fun _ => (Expr.block context steps).text?)
      [("Tag", tag context), ("Steps", .sequence "[]monad.Step" (ofSteps steps))]
termination_by expression => sizeOf expression
decreasing_by all_goals (simp <;> omega)

/-- The makeup of expressions one by one. -/
def ofExprs : List (Expr Host) → List Form
  | [] => []
  | first :: others => ofExpr first :: ofExprs others
termination_by expressions => sizeOf expressions
decreasing_by all_goals (simp <;> omega)

/-- The makeup of bindings one by one. -/
def ofBindings : List (Binding (Expr Host)) → List Form
  | [] => []
  | ⟨name, value⟩ :: others =>
    .compound "monad.Binding" false [("Name", Form.name name), ("Value", ofExpr value)] ::
      ofBindings others
termination_by bindings => sizeOf bindings
decreasing_by all_goals (simp <;> omega)

/-- The makeup of the clauses of a case one by one. -/
def ofClauses : List (Clause Host (Expr Host)) → List Form
  | [] => []
  | ⟨pattern, body⟩ :: others =>
    .compound "monad.Clause" false [("Pattern", ofPattern pattern), ("Body", ofExpr body)] ::
      ofClauses others
termination_by clauses => sizeOf clauses
decreasing_by all_goals (simp <;> omega)

/-- The makeup of the clauses of a try one by one. -/
def ofCatches : List (Catch (Expr Host)) → List Form
  | [] => []
  | ⟨name, test, handler⟩ :: others =>
    .compound "monad.Catch" false
      [("Name", Form.name name), ("Pred", ofExpr test), ("Handler", ofExpr handler)] ::
      ofCatches others
termination_by catches => sizeOf catches
decreasing_by all_goals (simp <;> omega)

/-- The makeup of steps one by one. -/
def ofSteps : List (Step (Expr Host)) → List Form
  | [] => []
  | ⟨name, value⟩ :: others =>
    .compound "monad.Step" false [("Name", Form.name name), ("Expr", ofExpr value)] ::
      ofSteps others
termination_by steps => sizeOf steps
decreasing_by all_goals (simp <;> omega)

end

end Form

end GrammarKit.Template
