import GrammarKit.Host
import GrammarKit.Proofs.Irrelevance
/-!
# What an evaluation traces

A traced evaluation writes a record of its expression at its depth and then what evaluating its
parts writes, one level down or, for the steps of a block, as many levels further as there are steps
before. A part may be evaluated any number of times: a context can run what follows again, and what
is not reached is not evaluated. Functions and contexts may write records of their own in between.
That is how a trace unfolds from an expression (`Evaluator.Unfolds`), and every traced evaluation
does, also one that stops half-way (`Evaluator.writes_evalAt`). In particular each record is that
of an expression within the whole at the depth at which it occurs there (`Expr.Occurs`).
-/

namespace GrammarKit

variable {β : Type}

/-- Where expressions occur in a whole: at which depth, the whole being at depth zero and the parts
of an expression one level below it, a step of a block further by the number of steps before it. -/
inductive Expr.Occurs (whole : Expr β) : Expr β → Nat → Prop where
  /-- The whole occurs at the top. -/
  | top : Occurs whole whole 0
  /-- A part occurs below its expression. -/
  | part {expression : Expr β} {depth : Nat} {placed : Expr β × Nat}
      (above : Occurs whole expression depth) (member : placed ∈ expression.placedParts) :
      Occurs whole placed.1 (depth + 1 + placed.2)

/-! ## What runs write -/

/-- Whether the records that a run adds to the trace meet a condition, from whatever ledger and
however the run ends. -/
def Run.Writes {α : Type} (told : List Record → Prop) (run : Run α) : Prop :=
  ∀ ledger, ∃ records,
    (run.run.run ledger).2.records.toList = ledger.records.toList ++ records ∧ told records

/-- Whether a condition on what is written is met by nothing, by each of certain own records, and by
what meets it followed by what meets it. -/
structure Composes (own : Record → Prop) (told : List Record → Prop) : Prop where
  /-- Writing nothing meets the condition. -/
  nothing : told []
  /-- Writing an own record meets the condition. -/
  single : ∀ {record}, own record → told [record]
  /-- Writing more, as far as it meets the condition, keeps it met. -/
  append : ∀ {first second}, told first → told second → told (first ++ second)

namespace Run.Writes

variable {α δ : Type} {own : Record → Prop} {told : List Record → Prop} {run : Run α}

/-- A run that writes nothing. -/
theorem quiet (nothing : told []) (silent : ∀ ledger,
    (run.run.run ledger).2.records = ledger.records) : run.Writes told :=
  fun ledger => ⟨[], by rw [silent, List.append_nil], nothing⟩

/-- Giving a value writes nothing. -/
theorem give (nothing : told []) (value : α) : (pure value : Run α).Writes told :=
  quiet nothing fun _ => rfl

/-- Stopping writes nothing. -/
theorem stop (nothing : told []) (fault : EvalFault) : (throw fault : Run α).Writes told :=
  quiet nothing fun _ => rfl

/-- Counting writes nothing. -/
theorem tally (nothing : told []) (name : String) : (Run.tally name).Writes told :=
  quiet nothing fun _ => rfl

/-- What a run writes meets weaker conditions as well. -/
theorem mono {told' : List Record → Prop} (writes : run.Writes told)
    (weaken : ∀ records, told records → told' records) : run.Writes told' := by
  intro ledger
  obtain ⟨records, added, holds⟩ := writes ledger
  exact ⟨records, added, weaken records holds⟩

/-- Going on adds to what was written. -/
theorem andThen (composes : Composes own told) (writes : run.Writes told) {next : α → Run δ}
    (after : ∀ value, (next value).Writes told) : (run >>= next).Writes told := by
  intro ledger
  obtain ⟨records, added, holds⟩ := writes ledger
  rw [run_bind]
  generalize run.run.run ledger = ended at added ⊢
  obtain ⟨result, left⟩ := ended
  cases result with
  | error fault => exact ⟨records, added, holds⟩
  | ok value =>
    obtain ⟨later, addedLater, holdsLater⟩ := after value left
    refine ⟨records ++ later, ?_, composes.append holds holdsLater⟩
    rw [addedLater, added, List.append_assoc]

/-- Writing a record first. -/
theorem trace {told' : List Record → Prop} (record : Record) (writes : run.Writes told)
    (first : ∀ records, told records → told' (record :: records)) :
    (Run.trace record >>= fun _ => run).Writes told' := by
  intro ledger
  obtain ⟨records, added, holds⟩ := writes { ledger with records := ledger.records.push record }
  refine ⟨record :: records, ?_, first records holds⟩
  change (run.run.run { ledger with records := ledger.records.push record }).2.records.toList = _
  rw [added, Array.toList_push, List.append_assoc]
  rfl

end Run.Writes

/-- Whether the functions and contexts of an evaluator write certain own records only, apart from
what is written by the runs that contexts feed. -/
structure Evaluator.WritesOnly (evaluator : Evaluator β) (own : Record → Prop) : Prop where
  /-- Functions write own records. -/
  functions : ∀ {name function}, evaluator.function? name = some function →
    ∀ args, (function args).Writes fun records => ∀ record ∈ records, own record
  /-- Contexts put own records together with what is written by the runs that they feed. -/
  contexts : ∀ {tag context}, evaluator.context? tag = some context →
    ∀ {told}, Composes own told → ∀ value {next : Value β → Run (Value β)},
      (∀ item, (next item).Writes told) → (context.bind value next).Writes told

/-- Own records meet a condition that composes. -/
theorem Composes.of_forall {own : Record → Prop} {told : List Record → Prop}
    (composes : Composes own told) {records : List Record}
    (all : ∀ record ∈ records, own record) : told records := by
  induction records with
  | nil => exact composes.nothing
  | cons record records ih =>
    obtain ⟨head, tail⟩ := List.forall_mem_cons.mp all
    exact composes.append (composes.single head) (ih tail)

/-- A counted context writes what is written by the runs that it feeds. -/
theorem ContextMode.writes_bind {own : Record → Prop} {told : List Record → Prop}
    (composes : Composes own told) (mode : ContextMode) (tag : String) (value : Value β)
    {next : Value β → Run (Value β)} (after : ∀ item, (next item).Writes told) :
    ((mode.context tag).bind value next).Writes told := by
  refine Run.Writes.andThen composes (.tally composes.nothing tag) fun counted => ?_
  cases mode with
  | count => exact after value
  | stop => exact .give composes.nothing value
  | twice =>
    exact (after value).andThen composes fun first => (after value).andThen composes
      fun second => .give composes.nothing _
  | wrap =>
    dsimp only
    split
    · exact after _
    · exact .give composes.nothing _

/-! ## How a trace unfolds -/

namespace Evaluator

variable [Payload β]

/-- Whether records are what evaluating some expressions at their levels writes, each any number of
times and in any order: the record of an expression and then what its own parts write. Own records
may stand anywhere in between. -/
inductive Unfolds (evaluator : Evaluator β) (own : Record → Prop) :
    List (Expr β × Nat) → Nat → List Record → Prop where
  /-- Nothing is evaluated any more. -/
  | nil {parts : List (Expr β × Nat)} {depth : Nat} : Unfolds evaluator own parts depth []
  /-- A function or a context writes. -/
  | own {parts : List (Expr β × Nat)} {depth : Nat} {record : Record} {later : List Record}
      (written : own record) (after : Unfolds evaluator own parts depth later) :
      Unfolds evaluator own parts depth (record :: later)
  /-- One of the expressions is evaluated. -/
  | part {parts : List (Expr β × Nat)} {depth : Nat} {placed : Expr β × Nat} {text : String}
      {inner later : List Record} (member : placed ∈ parts)
      (within : ¬ evaluator.Beyond (depth + placed.2)) (shown : placed.1.text? = some text)
      (inside : Unfolds evaluator own placed.1.placedParts (depth + placed.2 + 1) inner)
      (after : Unfolds evaluator own parts depth later) :
      Unfolds evaluator own parts depth (.evaluate text (depth + placed.2) :: (inner ++ later))

/-- Whether records are what evaluating one expression at a depth writes: nothing past the limit or
without a text, and otherwise its record and what its parts write. -/
inductive Recorded (evaluator : Evaluator β) (own : Record → Prop) (expression : Expr β)
    (depth : Nat) : List Record → Prop where
  /-- The expression is not recorded. -/
  | cut (unrecorded : evaluator.Beyond depth ∨ expression.text? = none) :
      Recorded evaluator own expression depth []
  /-- The expression is recorded and evaluated. -/
  | taken {text : String} {inner : List Record} (within : ¬ evaluator.Beyond depth)
      (shown : expression.text? = some text)
      (inside : Unfolds evaluator own expression.placedParts (depth + 1) inner) :
      Recorded evaluator own expression depth (.evaluate text depth :: inner)

variable {evaluator : Evaluator β} {own : Record → Prop} {parts : List (Expr β × Nat)}
  {depth : Nat}

/-- What is written one after the other unfolds from the same expressions. -/
theorem Unfolds.append {first second : List Record} (head : evaluator.Unfolds own parts depth first)
    (tail : evaluator.Unfolds own parts depth second) :
    evaluator.Unfolds own parts depth (first ++ second) := by
  induction head with
  | nil => exact tail
  | own written after ih => exact .own written (ih tail)
  | part member within shown inside after insideIh afterIh =>
    rw [List.cons_append, List.append_assoc]
    exact .part member within shown inside (afterIh tail)

/-- Unfolding from the same expressions is a condition that composes. -/
theorem Unfolds.composes (evaluator : Evaluator β) (own : Record → Prop)
    (parts : List (Expr β × Nat)) (depth : Nat) :
    Composes own (evaluator.Unfolds own parts depth) where
  nothing := .nil
  single written := .own written .nil
  append := .append

/-- What evaluating one of several expressions writes unfolds from them. -/
theorem Recorded.unfolds {placed : Expr β × Nat} {records : List Record}
    (recorded : evaluator.Recorded own placed.1 (depth + placed.2) records)
    (member : placed ∈ parts) : evaluator.Unfolds own parts depth records := by
  cases recorded with
  | cut => exact .nil
  | taken within shown inside =>
    rw [← List.append_nil (_ :: _)]
    exact .part member within shown inside .nil

end Evaluator

variable [Payload β] {evaluator : Evaluator β} {own : Record → Prop}

/-- Runs of an evaluator whose records meet a condition. -/
def Correspondence.writing (writes : evaluator.WritesOnly own) {told : List Record → Prop}
    (composes : Composes own told) : Correspondence evaluator evaluator where
  onRun run _ := run.Writes told
  onNode _ _ _ _ := False -- What is taken up writes a record of its own.
  catching := True
  asking _ _ _ := trivial
  attempting _ := trivial
  give := .give composes.nothing
  stop := .stop composes.nothing
  andThen kept after _ := .andThen composes kept after
  functions _ := rel_self fun _ found args =>
    (writes.functions found args).mono fun _ => composes.of_forall
  contexts _ := rel_self fun _ found =>
    ⟨fun _ => rfl, fun value _ _ after => writes.contexts found composes value after⟩
  takeUp node := node.elim

namespace Evaluator

omit [Payload β] in
/-- The top is within every limit. -/
theorem not_beyond_zero : ¬ evaluator.Beyond 0 := by
  rintro ⟨limited, further⟩
  have positive := Int64.lt_iff_toInt_lt.mp limited
  rw [Int64.toInt_zero] at positive
  omega

/-- Taking up an expression writes its record before what its evaluation writes. -/
theorem writes_takeUp (traced : evaluator.trace = true) {expression : Expr β} {depth : Nat}
    {run : Run (Value β)}
    (writes : run.Writes (evaluator.Unfolds own expression.placedParts (depth + 1))) :
    (evaluator.takeUp expression depth run).Writes (evaluator.Recorded own expression depth) := by
  by_cases beyond : evaluator.Beyond depth
  · rw [takeUp_beyond beyond]
    exact .give (.cut (.inl beyond)) _
  cases shown : expression.text? with
  | none =>
    rw [takeUp_untraceable beyond traced shown]
    exact .stop (.cut (.inr shown)) _
  | some text =>
    rw [takeUp_traced beyond traced shown]
    exact writes.trace _ fun _ => .taken beyond shown

/-- A traced evaluation writes the record of its expression and what unfolds from its parts. -/
theorem writes_evalAt (writes : evaluator.WritesOnly own) (traced : evaluator.trace = true)
    (expression : Expr β) (env : Env β) (depth : Nat) :
    (evaluator.evalAt expression env depth).Writes
      (evaluator.Recorded own expression depth) := by
  induction expression using Expr.induction_parts generalizing env depth with
  | step expression ih =>
  let C := Correspondence.writing writes
    (Unfolds.composes evaluator own expression.placedParts (depth + 1))
  have takes : C.Takes (fun run _ => run.Writes (evaluator.Recorded own expression depth))
      expression depth expression depth := writes_takeUp traced
  have parts : ∀ placed ∈ expression.placedParts, ∀ {env env' : Env β}, env.Agrees env' →
      C.OnTask placed.1 env (depth + 1 + placed.2) placed.1 env' (depth + 1 + placed.2) := by
    intro placed member env _ _
    have part := ih placed.1 (Expr.mem_parts_of_mem_placedParts member) env (depth + 1 + placed.2)
    exact part.mono fun _ recorded => recorded.unfolds member
  have kept := C.of_placed @takes (fun _ _ _ _ => trivial) (fun _ => trivial) parts (.refl env)
  exact kept

/-- Whether a record is that of an expression within a whole, at a depth at which it occurs there
and which is within the limit. -/
def RecordOf (evaluator : Evaluator β) (whole : Expr β) (record : Record) : Prop :=
  ∃ expression depth text, whole.Occurs expression depth ∧ expression.text? = some text ∧
    record = .evaluate text depth ∧
    (0 < evaluator.maxDepth → (depth : Int) ≤ evaluator.maxDepth.toInt)

/-- A taken up expression of a whole has a record of the whole. -/
theorem recordOf_of_occurs {whole expression : Expr β} {depth : Nat} {text : String}
    (occurs : whole.Occurs expression depth) (within : ¬ evaluator.Beyond depth)
    (shown : expression.text? = some text) :
    evaluator.RecordOf whole (.evaluate text depth) :=
  ⟨expression, depth, text, occurs, shown, rfl,
    fun limited => Int.not_lt.mp fun further => within ⟨limited, further⟩⟩

/-- What unfolds from expressions that occur in a whole are records of the whole, and own ones. -/
theorem Unfolds.recordOf {parts : List (Expr β × Nat)} {depth : Nat} {records : List Record}
    (unfolds : evaluator.Unfolds own parts depth records) {whole : Expr β}
    (occurs : ∀ placed ∈ parts, whole.Occurs placed.1 (depth + placed.2)) :
    ∀ record ∈ records, own record ∨ evaluator.RecordOf whole record := by
  induction unfolds with
  | nil => exact List.forall_mem_nil _
  | own written after ih => exact List.forall_mem_cons.mpr ⟨.inl written, ih occurs⟩
  | part member within shown inside after insideIh afterIh =>
    have here := occurs _ member
    refine List.forall_mem_cons.mpr ⟨.inr (recordOf_of_occurs here within shown), ?_⟩
    exact List.forall_mem_append.mpr
      ⟨insideIh fun _ memberInside => .part here memberInside, afterIh occurs⟩

/-- What evaluating an expression writes are records of the expression, and own ones. -/
theorem Recorded.recordOf {expression : Expr β} {records : List Record}
    (recorded : evaluator.Recorded own expression 0 records) :
    ∀ record ∈ records, own record ∨ evaluator.RecordOf expression record := by
  cases recorded with
  | cut => exact List.forall_mem_nil _
  | taken within shown inside =>
    refine List.forall_mem_cons.mpr ⟨.inr (recordOf_of_occurs .top within shown), ?_⟩
    exact inside.recordOf fun _ member => by simpa using Expr.Occurs.part .top member

/-! ## What evaluators write of their own -/

/-- The evaluators with only the built-in functions and contexts write nothing of their own. -/
theorem writesOnly_new (maxDepth : Int64) (trace : Bool) (own : Record → Prop) :
    (new maxDepth trace : Evaluator β).WritesOnly own where
  functions found := by
    obtain ⟨gives, -, rfl⟩ := exists_of_function?_new found
    exact fun args => .give (List.forall_mem_nil _) _
  contexts {_ _} found told composes value next after := by
    obtain ⟨plan, rfl⟩ := Context.exists_plan_of_mem_builtIn (mem_of_lookup found)
    exact @Feed.run_related β Run _ (fun run _ => run.Writes told) (.give composes.nothing)
      (fun kept after _ => .andThen composes kept after) (plan.feed value) next next after

namespace WritesOnly

omit [Payload β] in
/-- Defining a function that writes own records. -/
theorem define (writes : evaluator.WritesOnly own) (name : String) {function : Function β}
    (told : ∀ args, (function args).Writes fun records => ∀ record ∈ records, own record) :
    (evaluator.define name function).WritesOnly own where
  functions {_ _} looked := by
    obtain rfl | there := eq_or_lookup_of_lookup_cons looked
    · exact told
    · exact writes.functions there
  contexts := writes.contexts

omit [Payload β] in
/-- Registering a counted context, which writes nothing. -/
theorem registerCounted (writes : evaluator.WritesOnly own) (tag : String) (mode : ContextMode) :
    (evaluator.register tag (mode.context tag)).WritesOnly own where
  functions := writes.functions
  contexts {_ _} looked := by
    obtain rfl | there := eq_or_lookup_of_lookup_cons looked
    · exact fun composes value _ after => mode.writes_bind composes tag value after
    · exact writes.contexts there

/-- Defining a function in the expression language, which writes what evaluating its body writes. -/
theorem defineRecursive (writes : evaluator.WritesOnly own) (traced : evaluator.trace = true)
    (name : String) (parameters : List String) {body : Expr β}
    (told : ∀ record, evaluator.RecordOf body record → own record) :
    (evaluator.defineRecursive name parameters body).WritesOnly own := by
  have owned : Composes own fun records => ∀ record ∈ records, own record :=
    ⟨List.forall_mem_nil _, List.forall_mem_singleton.mpr,
      fun first second => List.forall_mem_append.mpr ⟨first, second⟩⟩
  unfold Evaluator.defineRecursive
  generalize callLimit = fuel
  induction fuel with
  | zero => exact writes.define name fun args => .stop (List.forall_mem_nil _) _
  | succ fuel ih =>
    refine writes.define name fun args => Run.Writes.andThen owned
      (.tally owned.nothing name) fun _ => ?_
    have body := writes_evalAt ih (by cases fuel <;> exact traced) body
      (Env.ofCall parameters args) 0
    refine body.mono fun records recorded record member => ?_
    obtain written | mentioned := recorded.recordOf record member
    · exact written
    · exact told record (by cases fuel <;> exact mentioned)

end WritesOnly

/-! ## Tracing observes -/

/-- Tracing is an observer. Two evaluators with the same limit on nesting, whose functions and
contexts do alike as far as all but the trace goes, come to the same from the same ledger whether or
not they trace, for every expression without holes in every environment, and what they leave besides
the trace is the same. When one traces, its log starts with the record of the whole at depth zero,
and the rest unfolds from the parts of the whole: apart from what functions and contexts write of
their own, every record is that of an expression within the whole, at the depth at which it occurs
there and not past the limit. -/
theorem trace_observes {on off : Evaluator β} (alike : on.Alike Ledger.untraced off)
    (traced : on.trace = true) (writes : on.WritesOnly own) {expression : Expr β}
    (filled : expression.Filled) (env : Env β) (ledger : Ledger) :
    ((on.eval expression env).outcome ledger = (off.eval expression env).outcome ledger ∧
      ((on.eval expression env).run.run ledger).2.untraced =
        ((off.eval expression env).run.run ledger).2.untraced) ∧
    ∃ text inner, expression.text? = some text ∧
      ((on.eval expression env).run.run ledger).2.records.toList =
        ledger.records.toList ++ .evaluate text 0 :: inner ∧
      on.Unfolds own expression.placedParts 1 inner ∧
      ∀ record ∈ inner, own record ∨ on.RecordOf expression record := by
  refine ⟨alike.alikeThrough_evalAt (fun _ _ => rfl) filled env 0 ledger ledger rfl, ?_⟩
  obtain ⟨records, added, recorded⟩ := writes_evalAt writes traced expression env 0 ledger
  have mentioned := recorded.recordOf
  cases recorded with
  | cut unrecorded =>
    obtain beyond | textless := unrecorded
    · exact absurd beyond not_beyond_zero
    · have shown := Expr.isSome_text?_of_filled filled
      rw [textless] at shown
      exact absurd shown Bool.false_ne_true
  | taken within shown inside =>
    exact ⟨_, _, shown, added, inside, (List.forall_mem_cons.mp mentioned).2⟩

/-- The body of a function that doubles. -/
def doubled : Expr Host := .call "plus" [.var "x", .var "x"]

/-- An evaluator with a function of its own and a context that runs what follows twice. -/
def retelling (trace : Bool) : Evaluator Host :=
  ((new 50 trace).defineRecursive "double" ["x"] doubled).register "again"
    (ContextMode.twice.context "again")

/-- A value that is doubled in a context. -/
def redoubled (context : String) (value : Value Host) (last : Expr Host) : Expr Host :=
  .block context [⟨"x", .lit value⟩, ⟨"", last⟩]

/-- What follows a first step is recorded once for each item of a list, one level further down, and
twice by a context that runs it twice, each time along with the records of a function's body. -/
theorem trace_observes_redoubled :
    let items := redoubled "list" (.list [.int 1, .int 2]) (.lift "list" doubled)
    let again := redoubled "again" (.int 1) (.call "double" [.var "x"])
    let own := (new 50 true).RecordOf doubled
    ((new 50 true : Evaluator Host).Alike Ledger.untraced (new 50 false) ∧
      (new 50 true : Evaluator Host).WritesOnly (fun _ => False) ∧ items.Filled ∧
      ((new 50 true).eval items .empty).outcome {} = ((new 50 false).eval items .empty).outcome {} ∧
      (∃ text inner, (((new 50 true).eval items .empty).run.run {}).2.records.toList =
        .evaluate text 0 :: inner ∧ ∀ record ∈ inner, (new 50 true).RecordOf items record) ∧
      (((new 50 true).eval items .empty).run.run {}).2.records.toList =
        [.evaluate "do<list>(set<x, [1, 2]>, return<list>(plus(x, x)))" 0, .evaluate "[1, 2]" 1,
          .evaluate "return<list>(plus(x, x))" 2, .evaluate "plus(x, x)" 3, .evaluate "x" 4,
          .evaluate "x" 4, .evaluate "return<list>(plus(x, x))" 2, .evaluate "plus(x, x)" 3,
          .evaluate "x" 4, .evaluate "x" 4]) ∧
    ((retelling true).Alike Ledger.untraced (retelling false) ∧ (retelling true).trace = true ∧
      (retelling true).WritesOnly own ∧ again.Filled ∧
      ((retelling true).eval again .empty).outcome {} =
        ((retelling false).eval again .empty).outcome {} ∧
      (∃ text inner, (((retelling true).eval again .empty).run.run {}).2.records.toList =
        .evaluate text 0 :: inner ∧
          ∀ record ∈ inner, own record ∨ (retelling true).RecordOf again record) ∧
      (((retelling true).eval again .empty).run.run {}).2.records.toList =
        [.evaluate "do<again>(set<x, 1>, double(x))" 0, .evaluate "1" 1,
          .evaluate "double(x)" 2, .evaluate "x" 3, .evaluate "plus(x, x)" 0, .evaluate "x" 1,
          .evaluate "x" 1, .evaluate "double(x)" 2, .evaluate "x" 3, .evaluate "plus(x, x)" 0,
          .evaluate "x" 1, .evaluate "x" 1]) := by
  intro items again own
  have name : (Expr.var "x" : Expr Host).Filled := .leaf rfl rfl
  have body : doubled.Filled :=
    .intro rfl (List.forall_mem_cons.mpr ⟨name, List.forall_mem_singleton.mpr name⟩)
  have block {context : String} {value : Value Host} {last : Expr Host} (filled : last.Filled) :
      (redoubled context value last).Filled :=
    .intro rfl (List.forall_mem_cons.mpr ⟨.leaf rfl rfl, List.forall_mem_singleton.mpr filled⟩)
  have lifted : items.Filled := block (.intro rfl (List.forall_mem_singleton.mpr body))
  have called : again.Filled := block (.intro rfl (List.forall_mem_singleton.mpr name))
  have toggled : (new 50 true : Evaluator Host).Alike Ledger.untraced (new 50 false) :=
    (blind_new Ledger.untraced 50 true).alike true false
  have silent : (new 50 true : Evaluator Host).WritesOnly (fun _ => False) := writesOnly_new ..
  have alike : (retelling true).Alike Ledger.untraced (retelling false) :=
    (toggled.defineRecursive "double" ["x"] body).registerCounted "again" .twice
  have writes : (retelling true).WritesOnly own :=
    ((writesOnly_new 50 true own).defineRecursive rfl "double" ["x"] fun _ => id).registerCounted
      "again" .twice
  obtain ⟨⟨same, -⟩, text, inner, -, added, -, each⟩ :=
    trace_observes toggled rfl silent lifted .empty {}
  obtain ⟨⟨same', -⟩, text', inner', -, added', -, each'⟩ :=
    trace_observes alike rfl writes called .empty {}
  refine ⟨⟨toggled, silent, lifted, same, ⟨text, inner, added, ?_⟩, rfl⟩,
    ⟨alike, rfl, writes, called, same', ⟨text', inner', added', each'⟩, rfl⟩⟩
  exact fun record member => (each record member).resolve_left id

end Evaluator

end GrammarKit
