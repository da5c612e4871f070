import GrammarKit.Proofs.ExceptionFree
import GrammarKit.Proofs.Meaning
/-!
# The laws of contexts

Lifting and feeding obey the laws of a monad in each of the built-in contexts. A lifted value is fed
on as it is, feeding a value of the context to a lift gives it back, and values can be fed to two
bodies one after the other or to the one of which the other is a part (`Evaluator.monad_laws`). The
laws are proved for what plans do with meanings, where exceptions and faults are all reasons to
stop, and hold of expressions because meanings have equations. Names come in only where a body is
moved under another binding, which it must not see.
-/

namespace GrammarKit

variable {β : Type}

namespace Feed

variable {f g : Value β → Meaning β (Value β)}

/-- What comes back for the items of two lists is put together list by list. -/
theorem collect_append (items others : List (Value β)) :
    collect g (items ++ others) = do
      let more ← collect g items
      let rest ← collect g others
      return more ++ rest := by
  induction items with
  | nil =>
    change collect g others = collect g others >>= fun rest => pure rest
    rw [bind_pure]
  | cons item items ih =>
    rw [List.cons_append, collect, collect, ih]
    simp only [bind_assoc, pure_bind, List.append_assoc]

/-- When lists come back for all items, they can be put together. -/
theorem exists_collect {items : List (Value β)}
    (lists : ∀ item ∈ items, ∃ more, f item = .ok (.list more)) :
    ∃ all, collect f items = .ok all := by
  induction items with
  | nil => exact ⟨[], rfl⟩
  | cons item items ih =>
    obtain ⟨⟨more, gives⟩, tail⟩ := List.forall_mem_cons.mp lists
    obtain ⟨all, rest⟩ := ih tail
    exact ⟨more ++ all, by rw [collect, gives, rest]; rfl⟩

/-- Putting lists together and going on with all items is going on with the items of each. -/
theorem collect_collect {items : List (Value β)}
    (lists : ∀ item ∈ items, ∃ more, f item = .ok (.list more)) :
    collect f items >>= collect g =
      collect (fun item => f item >>= fun value => (Plan.list.feed value).meaning g) items := by
  induction items with
  | nil => rfl
  | cons item items ih =>
    obtain ⟨⟨more, gives⟩, tail⟩ := List.forall_mem_cons.mp lists
    obtain ⟨all, rest⟩ := exists_collect tail
    have here : (Except.ok (Value.list more) >>= fun value => (Plan.list.feed value).meaning g) >>=
        Value.items = collect g more := by
      change Value.list <$> collect g more >>= Value.items = collect g more
      cases collect g more <;> rfl
    rw [collect, gives, rest, collect, ← ih tail, rest, gives, here]
    exact collect_append more all

end Feed

/-- A value that is free of exceptions is none. -/
theorem Value.isException_of_exceptionFree {value : Value β} (free : value.exceptionFree = true) :
    value.isException = false := by
  cases value with
  | exception raised => exact Bool.noConfusion free
  | _ => rfl

/-- Whether a value belongs to the built-in context of a tag. -/
def Value.BelongsTo (tag : String) (value : Value β) : Prop :=
  match tag with
  | "maybe" => value = .nothing ∨ ∃ inner, value = .just inner
  | "either" => (∃ inner, value = .left inner) ∨ ∃ inner, value = .right inner
  | "list" => ∃ items, value = .list items
  | _ => True

/-! ## Laws of plans -/

namespace Plan

variable {tag : String} {plan : Plan β}

/-- There is a plan for each of the five tags. -/
theorem cases_of_lookup (found : builtIn.lookup tag = some plan) :
    tag = "exception" ∧ plan = .exception ∨ tag = "identity" ∧ plan = .identity ∨
      tag = "maybe" ∧ plan = .maybe ∨ tag = "either" ∧ plan = .either ∨
        tag = "list" ∧ plan = .list := by
  have member := mem_of_lookup found
  simpa only [builtIn, List.mem_cons, Prod.mk.injEq, List.not_mem_nil, or_false] using member

/-- Feeding a lifted value goes on with the value. A list context takes what comes back apart and
puts it together again, so it has to be a list. -/
theorem meaning_feed_lift (found : builtIn.lookup tag = some plan) {value : Value β}
    (ordinary : value.isException = false) {next : Value β → Meaning β (Value β)}
    (lists : tag = "list" → ∀ result, next value = .ok result → ∃ items, result = .list items) :
    (Meaning.give (plan.lift value) >>= fun lifted => (plan.feed lifted).meaning next) =
      next value := by
  rcases cases_of_lookup found with ⟨rfl, rfl⟩ | ⟨rfl, rfl⟩ | ⟨rfl, rfl⟩ | ⟨rfl, rfl⟩ | ⟨rfl, rfl⟩
  · cases value with
    | exception raised => exact absurd ordinary Bool.noConfusion
    | _ => rfl
  · change Meaning.give value >>= next = next value
    rw [Meaning.give_of_ordinary ordinary]
    rfl
  · rfl
  · rfl
  · change Value.list <$> Feed.collect next [value] = next value
    rw [Feed.collect]
    cases came : next value with
    | error stop => rfl
    | ok result =>
      obtain ⟨items, rfl⟩ := lists rfl result came
      change Except.ok (Value.list (items ++ [])) = _
      rw [List.append_nil]

/-- Lifting the items of a list one by one gives them back. -/
theorem collect_lift {items : List (Value β)}
    (ordinary : ∀ item ∈ items, item.isException = false) :
    Feed.collect (fun item => Meaning.give item >>= fun item => Meaning.give (list.lift item))
      items = .ok items := by
  induction items with
  | nil => rfl
  | cons item items ih =>
    obtain ⟨head, tail⟩ := List.forall_mem_cons.mp ordinary
    rw [Feed.collect, ih tail, Meaning.give_of_ordinary head]
    rfl

/-- Feeding a value of the context to a lift gives the value back, as long as no exception is hidden
in it. -/
theorem meaning_feed_of_belongsTo (found : builtIn.lookup tag = some plan) {value : Value β}
    (free : value.exceptionFree = true) (belongs : value.BelongsTo tag) :
    (plan.feed value).meaning (fun item =>
      Meaning.give item >>= fun item => Meaning.give (plan.lift item)) = .ok value := by
  have ordinary := Value.isException_of_exceptionFree free
  rcases cases_of_lookup found with ⟨rfl, rfl⟩ | ⟨rfl, rfl⟩ | ⟨rfl, rfl⟩ | ⟨rfl, rfl⟩ | ⟨rfl, rfl⟩
  · cases value with
    | exception raised => exact absurd ordinary Bool.noConfusion
    | _ => rfl
  · change (Meaning.give value >>= fun item => Meaning.give item) = .ok value
    rw [Meaning.give_of_ordinary ordinary]
    exact Meaning.give_of_ordinary ordinary
  · obtain rfl | ⟨inner, rfl⟩ := belongs
    · rfl
    · have unhidden := Value.inherited_exceptionFree.wrapped.mp free
      change (Meaning.give inner >>= fun item => Meaning.give (.just item)) = .ok (.just inner)
      rw [Meaning.give_of_ordinary (Value.isException_of_exceptionFree unhidden)]
      rfl
  · obtain ⟨inner, rfl⟩ | ⟨inner, rfl⟩ := belongs
    · rfl
    · have unhidden := Value.inherited_exceptionFree.wrapped.mp free
      change (Meaning.give inner >>= fun item => Meaning.give (.right item)) = .ok (.right inner)
      rw [Meaning.give_of_ordinary (Value.isException_of_exceptionFree unhidden)]
      rfl
  · obtain ⟨items, rfl⟩ := belongs
    have unhidden := Value.inherited_exceptionFree.list.mp free
    change Value.list <$> Feed.collect _ items = .ok (.list items)
    rw [collect_lift fun item inside => Value.isException_of_exceptionFree (unhidden item inside)]
    rfl

/-- What a context halts with it halts with again, unless it has raised it. -/
theorem meaning_feed_of_halt (found : builtIn.lookup tag = some plan) {value result : Value β}
    (halts : plan.feed value = .halt result) (next : Value β → Meaning β (Value β)) :
    (Meaning.give result >>= fun result => (plan.feed result).meaning next) = .give result := by
  rcases cases_of_lookup found with ⟨-, rfl⟩ | ⟨-, rfl⟩ | ⟨-, rfl⟩ | ⟨-, rfl⟩ | ⟨-, rfl⟩
  · cases value with
    | exception raised =>
      cases halts
      rfl
    | _ => cases halts
  · cases halts
  · dsimp only [maybe] at halts
    split at halts <;> cases halts <;> rfl
  · dsimp only [either] at halts
    split at halts <;> cases halts <;> rfl
  · cases value <;> cases halts <;> rfl

/-- Only lists are fed item by item, and in a list context. -/
theorem eq_list_of_each (found : builtIn.lookup tag = some plan) {value : Value β}
    {items : List (Value β)} (fed : plan.feed value = .each items) :
    tag = "list" ∧ plan = .list ∧ value = .list items := by
  rcases cases_of_lookup found with ⟨-, rfl⟩ | ⟨-, rfl⟩ | ⟨-, rfl⟩ | ⟨-, rfl⟩ | ⟨rfl, rfl⟩
  · cases value <;> cases fed
  · cases fed
  · dsimp only [maybe] at fed
    split at fed <;> cases fed
  · dsimp only [either] at fed
    split at fed <;> cases fed
  · cases value with
    | list items =>
      cases fed
      exact ⟨rfl, rfl, rfl⟩
    | _ => cases fed

/-- Feeding to one body after the other is feeding to the one of which the other is a part. In a
list context the first body has to give lists, or the failures of the second may come first. -/
theorem meaning_feed_assoc (found : builtIn.lookup tag = some plan) {value : Value β}
    {f g : Value β → Meaning β (Value β)}
    (lists : tag = "list" → ∀ items, value = .list items →
      ∀ item ∈ items, ∃ more, f item = .ok (.list more)) :
    ((plan.feed value).meaning f >>= fun result => (plan.feed result).meaning g) =
      (plan.feed value).meaning fun item =>
        f item >>= fun result => (plan.feed result).meaning g := by
  cases fed : plan.feed value with
  | halt result => exact meaning_feed_of_halt found fed g
  | one item => rfl
  | each items =>
    obtain ⟨tagged, rfl, rfl⟩ := eq_list_of_each found fed
    have together := Feed.collect_collect (g := g) (lists tagged items rfl)
    change (Value.list <$> Feed.collect f items >>= fun result =>
      (Plan.list.feed result).meaning g) = Value.list <$> Feed.collect _ items
    rw [← together, bind_map_left, map_bind]
    rfl

end Plan

/-! ## Laws of expressions -/

namespace Evaluator

variable {evaluator : Evaluator β}

/-- Whether functions that are given values without exceptions give such values, or raise them. -/
def KeepsExceptionsOutermost (evaluator : Evaluator β) : Prop :=
  ∀ {name function}, evaluator.function? name = some function →
    ∀ {args : List (Value β)}, (∀ arg ∈ args, arg.exceptionFree = true) →
      ∀ ledger value, (function args).outcome ledger = .ok value → value.ExceptionOutermost

variable [Payload β]

/-- The built-in functions keep exceptions outermost. -/
theorem keepsExceptionsOutermost_new (maxDepth : Int64) (trace : Bool) :
    (new maxDepth trace : Evaluator β).KeepsExceptionsOutermost := by
  intro name function found args free ledger value gives
  obtain ⟨result, member, rfl⟩ := exists_of_function?_new found
  exact Except.ok.inj gives ▸
    (Function.gives_of_mem_pureBuiltIn member _).outward Value.inherited_exceptionFree free

end Evaluator

/-- The invariant of evaluators whose functions keep exceptions outermost: runs give values without
exceptions or raise them. -/
def Invariant.givesOutermost [Payload β] {evaluator : Evaluator β}
    (standard : evaluator.contexts = Context.builtIn)
    (careful : evaluator.KeepsExceptionsOutermost) : Invariant evaluator where
  standard := standard
  good value := value.exceptionFree = true
  inherited := Value.inherited_exceptionFree
  onNode := Expr.LiteralFree
  literal here := here
  catching := True
  asking _ _ _ := trivial
  attempting _ := trivial
  onEnd _ result := ∀ value, result = .ok value → value.ExceptionOutermost
  outward kept := kept _ rfl
  give outward := by
    rintro _ ⟨⟩
    exact outward
  stop _ _ _ := nofun
  untraceable _ _ := nofun
  andThen _ _ later := later
  call found free ledger := careful found free ledger
  feed _ kept := kept
  takeUp _ kept := kept
  settle kept := kept

namespace Evaluator

variable [Payload β] {evaluator : Evaluator β} {tag : String} {plan : Plan β}

/-- Without exceptions in its literals and in the environment an expression means a value without
exceptions, if it means a value. -/
theorem exceptionFree_of_meaning (standard : evaluator.contexts = Context.builtIn)
    (careful : evaluator.KeepsExceptionsOutermost) {expression : Expr β}
    (literals : expression.Every Expr.LiteralFree) {env : Env β}
    (bound : env.Binds fun value => value.exceptionFree = true) {value : Value β}
    (means : evaluator.meaning expression env = .ok value) : value.exceptionFree = true := by
  obtain ⟨gives, ordinary⟩ := Meaning.eq_ok_of_ofOutcome means
  rw [eval, ← plain_watchAt standard expression env 0] at gives
  have kept := (Invariant.givesOutermost standard careful).onRun_watchAt expression literals bound
    0 {} value gives
  cases kept with
  | given free => exact free
  | raised => exact absurd ordinary Bool.noConfusion

section Laws

variable (oblivious : evaluator.Oblivious) (unlimited : ¬ 0 < evaluator.maxDepth)
  (found : Plan.builtIn.lookup tag = some plan)
  (governs : evaluator.context? tag = some plan.context) {env : Env β}

include oblivious unlimited

/-- Under a binding that counts more, or of a name that is not free, an expression means the same
without another binding. -/
theorem meaning_bind_bind {first second : String} {expression : Expr β}
    (unseen : first = second ∨ first ∉ expression.freeNames) (value value' : Value β) :
    evaluator.meaning expression ((env.bind first value).bind second value') =
      evaluator.meaning expression (env.bind second value') := by
  by_cases same : first = second
  · apply meaning_of_agrees oblivious unlimited
    intro wanted
    simp only [same, Env.lookup_bind]
    split <;> rfl
  · have swapped : ((env.bind first value).bind second value').Agrees
        ((env.bind second value').bind first value) := by
      intro wanted
      simp only [Env.lookup_bind]
      by_cases here : wanted = second
      · rw [if_pos here, here, if_neg (Ne.symm same), if_pos rfl]
      · simp only [here, ↓reduceIte]
    rw [meaning_of_agrees oblivious unlimited swapped]
    exact meaning_bind_of_unread oblivious (unseen.resolve_left same) value _

include found governs

/-- Feeding a lifted expression to a body is binding it in the body. -/
theorem meaning_bind_lift {lifted body : Expr β} {name : String} (named : name ≠ "")
    (lists : tag = "list" → ∀ value result, evaluator.meaning lifted env = .ok value →
      evaluator.meaning body (env.bind name value) = .ok result → ∃ items, result = .list items) :
    evaluator.meaning (.bind tag (.lift tag lifted) name body) env =
      evaluator.meaning (.letIn name lifted body) env := by
  rw [meaning_bind oblivious unlimited governs, meaning_lift oblivious unlimited governs,
    meaning_letIn oblivious unlimited, bind_assoc]
  cases given : evaluator.meaning lifted env with
  | error stop => rfl
  | ok value =>
    have ordinary := (Meaning.eq_ok_of_ofOutcome given).2
    simp only [if_neg named]
    exact Plan.meaning_feed_lift found ordinary fun tagged result came =>
      lists tagged value result given came

/-- Feeding an expression to a lift is the expression, if it means a value of the context. -/
theorem meaning_bind_lift_var {fed : Expr β} {name : String} (named : name ≠ "")
    (belongs : ∀ value, evaluator.meaning fed env = .ok value →
      value.exceptionFree = true ∧ value.BelongsTo tag) :
    evaluator.meaning (.bind tag fed name (.lift tag (.var name))) env =
      evaluator.meaning fed env := by
  have lifts (item : Value β) : evaluator.meaning (.lift tag (.var name)) (env.bind name item) =
      Meaning.give item >>= fun item => .give (plan.lift item) := by
    rw [meaning_lift oblivious unlimited governs, meaning_var unlimited, Env.lookup_bind,
      if_pos rfl]
    rfl
  rw [meaning_bind oblivious unlimited governs]
  simp only [if_neg named, lifts]
  cases given : evaluator.meaning fed env with
  | error stop => rfl
  | ok value =>
    obtain ⟨free, belonging⟩ := belongs value given
    exact Plan.meaning_feed_of_belongsTo found free belonging

/-- Feeding to one body and then to another is feeding to the one with the other inside. -/
theorem meaning_bind_bind_assoc {fed middle body : Expr β} {first second : String}
    (named : first ≠ "") (named' : second ≠ "")
    (unseen : first = second ∨ first ∉ body.freeNames)
    (lists : tag = "list" → ∀ items, evaluator.meaning fed env = .ok (.list items) →
      ∀ item ∈ items, ∃ more,
        evaluator.meaning middle (env.bind first item) = .ok (.list more)) :
    evaluator.meaning (.bind tag (.bind tag fed first middle) second body) env =
      evaluator.meaning (.bind tag fed first (.bind tag middle second body)) env := by
  simp only [meaning_bind oblivious unlimited governs, if_neg named, if_neg named',
    meaning_bind_bind oblivious unlimited unseen, bind_assoc]
  cases given : evaluator.meaning fed env with
  | error stop => rfl
  | ok value =>
    refine Plan.meaning_feed_assoc found fun tagged items same => lists tagged items ?_
    rw [given, same]

end Laws

/-- The laws of a monad hold in each of the five built-in contexts, of all expressions, in
evaluators without a limit that have the built-in contexts and any oblivious functions that keep
exceptions outermost. Feeding a lifted expression is binding it; in the list context the body has to give lists
or raise. Feeding an expression to a lift is the expression, if it raises or gives a value of the
context, and its literals and the environment hold no exceptions. Feeding to one body and then to
another is feeding to the one with the other inside, provided that the other does not see the name
of the one; in the list context the first body has to give lists for all items. -/
theorem monad_laws (standard : evaluator.contexts = Context.builtIn)
    (oblivious : evaluator.Oblivious) (careful : evaluator.KeepsExceptionsOutermost)
    (unlimited : ¬ 0 < evaluator.maxDepth)
    (known : tag ∈ ["exception", "identity", "maybe", "either", "list"]) {env : Env β}
    (bound : env.Binds fun value => value.exceptionFree = true) (depth : Nat) :
    (∀ (lifted body : Expr β) (name : String), name ≠ "" →
      (tag = "list" → ∀ value result, (evaluator.eval lifted env).outcome {} = .ok value →
        value.isException = false →
        (evaluator.eval body (env.bind name value)).outcome {} = .ok result →
        result.isException = true ∨ ∃ items, result = .list items) →
      (evaluator.evalAt (.bind tag (.lift tag lifted) name body) env depth).SameOutcome
        (evaluator.evalAt (.letIn name lifted body) env depth)) ∧
    (∀ (fed : Expr β) (name : String), name ≠ "" → fed.Every Expr.LiteralFree →
      (∀ value, (evaluator.eval fed env).outcome {} = .ok value →
        value.isException = true ∨ value.BelongsTo tag) →
      (evaluator.evalAt (.bind tag fed name (.lift tag (.var name))) env depth).SameOutcome
        (evaluator.evalAt fed env depth)) ∧
    (∀ (fed middle body : Expr β) (first second : String), first ≠ "" → second ≠ "" →
      (first = second ∨ first ∉ body.freeNames) →
      (tag = "list" → ∀ items, (evaluator.eval fed env).outcome {} = .ok (.list items) →
        ∀ item ∈ items, ∃ more,
          (evaluator.eval middle (env.bind first item)).outcome {} = .ok (.list more)) →
      (evaluator.evalAt (.bind tag (.bind tag fed first middle) second body) env
          depth).SameOutcome
        (evaluator.evalAt (.bind tag fed first (.bind tag middle second body)) env depth)) := by
  obtain ⟨plan, found⟩ : ∃ plan : Plan β, Plan.builtIn.lookup tag = some plan := by
    simp only [List.mem_cons, List.not_mem_nil, or_false] at known
    rcases known with rfl | rfl | rfl | rfl | rfl <;> exact ⟨_, rfl⟩
  have governs : evaluator.context? tag = some plan.context := by
    rw [context?, standard, Context.lookup_builtIn_eq_map, found]
    rfl
  refine ⟨?_, ?_, ?_⟩
  · intro lifted body name named lists
    apply sameOutcome_of_meaning_eq oblivious unlimited
    apply meaning_bind_lift oblivious unlimited found governs named
    intro tagged value result given came
    obtain ⟨given, ordinary⟩ := Meaning.eq_ok_of_ofOutcome given
    obtain ⟨came, unraised⟩ := Meaning.eq_ok_of_ofOutcome came
    refine (lists tagged value result given ordinary came).resolve_left ?_
    rw [unraised]
    exact Bool.false_ne_true
  · intro fed name named literals belongs
    apply sameOutcome_of_meaning_eq oblivious unlimited
    apply meaning_bind_lift_var oblivious unlimited found governs named
    intro value means
    have free := exceptionFree_of_meaning standard careful literals bound means
    obtain ⟨given, ordinary⟩ := Meaning.eq_ok_of_ofOutcome means
    refine ⟨free, (belongs value given).resolve_left ?_⟩
    rw [ordinary]
    exact Bool.false_ne_true
  · intro fed middle body first second named named' unseen lists
    apply sameOutcome_of_meaning_eq oblivious unlimited
    apply meaning_bind_bind_assoc oblivious unlimited found governs named named' unseen
    intro tagged items given item inside
    obtain ⟨more, came⟩ := lists tagged items (Meaning.eq_ok_of_ofOutcome given).1 item inside
    exact ⟨more, by rw [meaning, came]; rfl⟩

/-- The square of a name as a list of one. -/
def squareOf (name : String) : Expr Host := .lift "list" (.call "times" [.var name, .var name])

/-- An environment with two numbers in a list. -/
def twoNumbers : Env Host := Env.empty.bind "n" (.list [.int 1, .int 2])

/-- Squares of squares, fed through the list context in either way. -/
theorem monad_laws_squareOf :
    (new 0 true : Evaluator Host).Oblivious ∧
      (new 0 true : Evaluator Host).KeepsExceptionsOutermost ∧
      twoNumbers.Binds (fun value => value.exceptionFree = true) ∧
      ((new 0 true).evalAt (.bind "list" (.lift "list" (.int 3)) "x" (squareOf "x")) twoNumbers
        0).SameOutcome ((new 0 true).evalAt (.letIn "x" (.int 3) (squareOf "x")) twoNumbers 0) ∧
      ((new 0 true).evalAt (.bind "list" (.var "n") "x" (.lift "list" (.var "x"))) twoNumbers
        0).SameOutcome ((new 0 true).evalAt (.var "n") twoNumbers 0) ∧
      ((new 0 true).evalAt (.bind "list" (.bind "list" (.var "n") "x" (squareOf "x")) "y"
        (squareOf "y")) twoNumbers 0).SameOutcome
        ((new 0 true).evalAt (.bind "list" (.var "n") "x" (.bind "list" (squareOf "x") "y"
          (squareOf "y"))) twoNumbers 0) ∧
      ((new 0 true).evalAt (.bind "list" (.var "n") "x" (.bind "list" (squareOf "x") "y"
        (squareOf "y"))) twoNumbers 0).outcome {} = .ok (.list [.int 1, .int 16]) := by
  have careful : (new 0 true : Evaluator Host).KeepsExceptionsOutermost :=
    keepsExceptionsOutermost_new 0 true
  have bound : twoNumbers.Binds fun value => value.exceptionFree = true :=
    Env.Binds.empty.bind "n" rfl
  have known : "list" ∈ ["exception", "identity", "maybe", "either", "list"] := by decide
  obtain ⟨left, right, assoc⟩ := monad_laws rfl (oblivious_new 0 true) careful (by decide) known
    bound 0
  refine ⟨oblivious_new 0 true, careful, bound, left (.int 3) (squareOf "x") "x" (by decide) ?_,
    right (.var "n") "x" (by decide) (.leaf rfl trivial) ?_,
    assoc (.var "n") (squareOf "x") (squareOf "y") "x" "y" (by decide) (by decide)
      (.inr (by decide)) ?_, rfl⟩
  · rintro - value result given - came
    obtain rfl : .int 3 = value := Except.ok.inj given
    obtain rfl : .list [.int 9] = result := Except.ok.inj came
    exact .inr ⟨_, rfl⟩
  · intro value given
    obtain rfl : .list [.int 1, .int 2] = value := Except.ok.inj given
    exact .inr ⟨_, rfl⟩
  · intro _ items given item inside
    obtain rfl : [.int 1, .int 2] = items := Value.list.inj (Except.ok.inj given)
    simp only [List.mem_cons, List.not_mem_nil, or_false] at inside
    rcases inside with rfl | rfl <;> exact ⟨_, rfl⟩

end Evaluator

end GrammarKit
