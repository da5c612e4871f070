import GrammarKit.Pattern
/-!
# Expressions

The expression language: literals, variables, calls, constructions, conditionals, bindings, pattern
matching, exceptions, and the three forms that work inside an evaluation context. A tree may have
holes (`absent`), which cannot be evaluated; a clause whose body is absent gives its subject.

The text of an expression shows holes only where the form around it can show one. Elsewhere a hole
makes the text undefined, and the nearest enclosing form that can show a failure does so.
-/

namespace GrammarKit

/-- A name and the expression it is bound to. -/
structure Binding (ε : Type) where
  /-- The name that is bound. -/
  name : String
  /-- The expression whose value it gets. -/
  value : ε

/-- A clause of a case. -/
structure Clause (β ε : Type) where
  /-- What the subject has to match. -/
  pattern : Pattern β
  /-- What the clause evaluates to; when absent, the subject itself. -/
  body : ε

/-- A clause of a try, for the exceptions that satisfy its test. -/
structure Catch (ε : Type) where
  /-- The name that the raised value is bound to. -/
  name : String
  /-- Whether the clause is for this exception. -/
  test : ε
  /-- What the clause evaluates to. -/
  handler : ε

/-- A step of a do block; an empty name binds nothing. -/
structure Step (ε : Type) where
  /-- The name that the later steps see. -/
  name : String
  /-- What the step evaluates. -/
  value : ε

/-- An expression over boxes that hold a `β`. -/
inductive Expr (β : Type) where
  /-- A hole. -/
  | absent
  /-- A value that stands for itself. -/
  | lit (value : Value β)
  /-- The value bound to a name, or the name as a symbol when nothing is. -/
  | var (name : String)
  /-- A function applied to arguments. -/
  | call (function : String) (args : List (Expr β))
  /-- Data built from arguments. -/
  | construct (name ownTag : String) (args : List (Expr β))
  /-- One of two expressions, by a truth value. -/
  | ifThenElse (condition yes no : Expr β)
  /-- A body that sees one more name. -/
  | letIn (name : String) (value body : Expr β)
  /-- A body that sees several more names, bound at once. -/
  | letAll (bindings : List (Binding (Expr β))) (body : Expr β)
  /-- The first clause that the subject matches. -/
  | case (subject : Expr β) (clauses : List (Clause β (Expr β)))
  /-- Raises a value. -/
  | raise (value : Expr β)
  /-- A body whose exceptions may be caught. -/
  | attempt (body : Expr β) (catches : List (Catch (Expr β)))
  /-- Lifts a value into a context. -/
  | lift (context : String) (value : Expr β)
  /-- Feeds a value to a body through a context. -/
  | bind (context : String) (value : Expr β) (name : String) (body : Expr β)
  /-- Steps chained through a context. -/
  | block (context : String) (steps : List (Step (Expr β)))
deriving Inhabited

namespace Expr

variable {β : Type}

/-- An integer as an expression. -/
def int (number : Int64) : Expr β := .lit (.int number)

/-- An expression inside a number of one-argument calls of the same function. -/
def nest (function : String) : Nat → Expr β → Expr β
  | 0, expression => expression
  | count + 1, expression => nest function count (.call function [expression])

/-- How a form shows a hole. -/
def holeText : String := "%!s(<nil>)"

/-- How a thing whose text is undefined shows up where a verb asks for the text. -/
def failureReport (verb : Char) : String :=
  "%!" ++ verb.toString ++
    "(PANIC=String method: runtime error: invalid memory address or nil pointer dereference)"

/-- How a form shows a part that has no text. -/
def failedText : String := failureReport 's'

/-- Whether an expression is a hole. -/
def isAbsent : Expr β → Bool
  | .absent => true
  | _ => false

/-- A part as shown by a form that can show holes and failures, given the part's own text. -/
def shown (part : Expr β) (text? : Option String) : String :=
  if part.isAbsent then holeText else text?.getD failedText

mutual

/-- The text of an expression, given the text of what boxes hold; nothing when a hole makes it
undefined. -/
def textWith? (boxed : β → String) : Expr β → Option String
  | .absent => none
  | .lit value => some (value.textWith boxed)
  | .var name => some name
  | .call function args => do
    return function ++ "(" ++ ", ".intercalate (← textsWith? boxed args) ++ ")"
  | .construct name _ args => do
    return "construct<" ++ name ++ ">(" ++ ", ".intercalate (← textsWith? boxed args) ++ ")"
  | .ifThenElse condition yes no =>
    some ("if(" ++ shown condition (textWith? boxed condition) ++ ", " ++
      shown yes (textWith? boxed yes) ++ ", " ++ shown no (textWith? boxed no) ++ ")")
  | .letIn name value body =>
    some ("let(" ++ name ++ ", " ++ shown value (textWith? boxed value) ++ ", " ++
      shown body (textWith? boxed body) ++ ")")
  | .letAll bindings body => do
    let items ← bindingTextsWith? boxed bindings
    return "multi_let(\x7b" ++ ", ".intercalate items ++ "\x7d, " ++
      shown body (textWith? boxed body) ++ ")"
  | .case subject clauses => do
    return "case(" ++ (← textWith? boxed subject) ++ (← clauseTextsWith? boxed clauses) ++ ")"
  | .raise value => some ("raise(" ++ shown value (textWith? boxed value) ++ ")")
  | .attempt body catches => do
    return "try(" ++ (← textWith? boxed body) ++ catchTextsWith boxed catches ++ ")"
  | .lift context value =>
    some ("return<" ++ context ++ ">(" ++ shown value (textWith? boxed value) ++ ")")
  | .bind context value name body =>
    some ("bind<" ++ context ++ ">(" ++ shown value (textWith? boxed value) ++ ", " ++ name ++
      " -> " ++ shown body (textWith? boxed body) ++ ")")
  | .block context steps => do
    return "do<" ++ context ++ ">(" ++ ", ".intercalate (← stepTextsWith? boxed steps) ++ ")"

/-- The texts of expressions one by one. -/
def textsWith? (boxed : β → String) : List (Expr β) → Option (List String)
  | [] => some []
  | first :: others => do
    return (← textWith? boxed first) :: (← textsWith? boxed others)

/-- The texts of bindings one by one. -/
def bindingTextsWith? (boxed : β → String) : List (Binding (Expr β)) → Option (List String)
  | [] => some []
  | ⟨name, value⟩ :: others => do
    return (name ++ ": " ++ (← textWith? boxed value)) :: (← bindingTextsWith? boxed others)

/-- The texts of clauses after the subject of a case. -/
def clauseTextsWith? (boxed : β → String) : List (Clause β (Expr β)) → Option String
  | [] => some ""
  | ⟨pattern, .absent⟩ :: others => do
    return ", matches(" ++ pattern.textWith boxed ++ ")" ++ (← clauseTextsWith? boxed others)
  | ⟨pattern, body⟩ :: others => do
    return ", matches(" ++ pattern.textWith boxed ++ ", " ++ (← textWith? boxed body) ++ ")" ++
      (← clauseTextsWith? boxed others)

/-- The texts of catches after the body of a try. -/
def catchTextsWith (boxed : β → String) : List (Catch (Expr β)) → String
  | [] => ""
  | ⟨name, test, handler⟩ :: others =>
    ", catch(" ++ name ++ ", " ++ shown test (textWith? boxed test) ++ ", " ++
      shown handler (textWith? boxed handler) ++ ")" ++ catchTextsWith boxed others

/-- The texts of steps one by one. -/
def stepTextsWith? (boxed : β → String) : List (Step (Expr β)) → Option (List String)
  | [] => some []
  | ⟨name, value⟩ :: others => do
    let text ← textWith? boxed value
    return (if name = "" then text else "set<" ++ name ++ ", " ++ text ++ ">") ::
      (← stepTextsWith? boxed others)

end

/-- The text of an expression, or nothing when a hole makes it undefined. -/
def text? [Payload β] (expression : Expr β) : Option String := expression.textWith? Payload.text

mutual

/-- The same expression over boxed things that are known to be small; see `Value.within`. -/
def within (small : β → Prop) [SizeOf β] :
    (expression : Expr β) → (∀ payload, sizeOf payload < sizeOf expression → small payload) →
      Expr { payload : β // small payload }
  | .absent, _ => .absent
  | .lit value, below => .lit (value.within small (fun _ _ => below _ (by simp; omega)))
  | .var name, _ => .var name
  | .call function args, below =>
    .call function (withinAll small args (fun _ _ => below _ (by simp; omega)))
  | .construct name ownTag args, below =>
    .construct name ownTag (withinAll small args (fun _ _ => below _ (by simp; omega)))
  | .ifThenElse condition yes no, below =>
    .ifThenElse (within small condition (fun _ _ => below _ (by simp; omega)))
      (within small yes (fun _ _ => below _ (by simp; omega)))
      (within small no (fun _ _ => below _ (by simp; omega)))
  | .letIn name value body, below =>
    .letIn name (within small value (fun _ _ => below _ (by simp; omega)))
      (within small body (fun _ _ => below _ (by simp; omega)))
  | .letAll bindings body, below =>
    .letAll (withinBindings small bindings (fun _ _ => below _ (by simp; omega)))
      (within small body (fun _ _ => below _ (by simp; omega)))
  | .case subject clauses, below =>
    .case (within small subject (fun _ _ => below _ (by simp; omega)))
      (withinClauses small clauses (fun _ _ => below _ (by simp; omega)))
  | .raise value, below => .raise (within small value (fun _ _ => below _ (by simp; omega)))
  | .attempt body catches, below =>
    .attempt (within small body (fun _ _ => below _ (by simp; omega)))
      (withinCatches small catches (fun _ _ => below _ (by simp; omega)))
  | .lift context value, below =>
    .lift context (within small value (fun _ _ => below _ (by simp; omega)))
  | .bind context value name body, below =>
    .bind context (within small value (fun _ _ => below _ (by simp; omega))) name
      (within small body (fun _ _ => below _ (by simp; omega)))
  | .block context steps, below =>
    .block context (withinSteps small steps (fun _ _ => below _ (by simp; omega)))

/-- `within` for a list of expressions. -/
def withinAll (small : β → Prop) [SizeOf β] :
    (expressions : List (Expr β)) →
    (∀ payload, sizeOf payload < sizeOf expressions → small payload) →
      List (Expr { payload : β // small payload })
  | [], _ => []
  | first :: others, below =>
    within small first (fun _ _ => below _ (by simp; omega)) ::
      withinAll small others (fun _ _ => below _ (by simp; omega))

/-- `within` for bindings. -/
def withinBindings (small : β → Prop) [SizeOf β] :
    (bindings : List (Binding (Expr β))) →
    (∀ payload, sizeOf payload < sizeOf bindings → small payload) →
      List (Binding (Expr { payload : β // small payload }))
  | [], _ => []
  | ⟨name, value⟩ :: others, below =>
    ⟨name, within small value (fun _ _ => below _ (by simp; omega))⟩ ::
      withinBindings small others (fun _ _ => below _ (by simp; omega))

/-- `within` for clauses. -/
def withinClauses (small : β → Prop) [SizeOf β] :
    (clauses : List (Clause β (Expr β))) →
    (∀ payload, sizeOf payload < sizeOf clauses → small payload) →
      List (Clause { payload : β // small payload }
        (Expr { payload : β // small payload }))
  | [], _ => []
  | ⟨pattern, body⟩ :: others, below =>
    ⟨pattern.within small (fun _ _ => below _ (by simp; omega)),
      within small body (fun _ _ => below _ (by simp; omega))⟩ ::
      withinClauses small others (fun _ _ => below _ (by simp; omega))

/-- `within` for catches. -/
def withinCatches (small : β → Prop) [SizeOf β] :
    (catches : List (Catch (Expr β))) →
    (∀ payload, sizeOf payload < sizeOf catches → small payload) →
      List (Catch (Expr { payload : β // small payload }))
  | [], _ => []
  | ⟨name, test, handler⟩ :: others, below =>
    ⟨name, within small test (fun _ _ => below _ (by simp; omega)),
      within small handler (fun _ _ => below _ (by simp; omega))⟩ ::
      withinCatches small others (fun _ _ => below _ (by simp; omega))

/-- `within` for steps. -/
def withinSteps (small : β → Prop) [SizeOf β] :
    (steps : List (Step (Expr β))) → (∀ payload, sizeOf payload < sizeOf steps → small payload) →
      List (Step (Expr { payload : β // small payload }))
  | [], _ => []
  | ⟨name, value⟩ :: others, below =>
    ⟨name, within small value (fun _ _ => below _ (by simp; omega))⟩ ::
      withinSteps small others (fun _ _ => below _ (by simp; omega))

end

/-- The same expression with the knowledge that every boxed thing is smaller than it. -/
def contained [SizeOf β] (expression : Expr β) :
    Expr { payload : β // sizeOf payload < sizeOf expression } :=
  expression.within (fun payload => sizeOf payload < sizeOf expression) fun _ under => under

mutual

/-- Equality of the representation of expressions, given the equality of what boxes hold. -/
def alikeWith {γ : Type} (boxed : β → γ → Bool) : Expr β → Expr γ → Bool
  | .absent, .absent => true
  | .lit left, .lit right => left.alikeWith boxed right
  | .var left, .var right => left == right
  | .call function args, .call function' args' =>
    function == function' && alikeAllWith boxed args args'
  | .construct name ownTag args, .construct name' ownTag' args' =>
    name == name' && ownTag == ownTag' && alikeAllWith boxed args args'
  | .ifThenElse condition yes no, .ifThenElse condition' yes' no' =>
    alikeWith boxed condition condition' && alikeWith boxed yes yes' && alikeWith boxed no no'
  | .letIn name value body, .letIn name' value' body' =>
    name == name' && alikeWith boxed value value' && alikeWith boxed body body'
  | .letAll bindings body, .letAll bindings' body' =>
    alikeBindingsWith boxed bindings bindings' && alikeWith boxed body body'
  | .case subject clauses, .case subject' clauses' =>
    alikeWith boxed subject subject' && alikeClausesWith boxed clauses clauses'
  | .raise value, .raise value' => alikeWith boxed value value'
  | .attempt body catches, .attempt body' catches' =>
    alikeWith boxed body body' && alikeCatchesWith boxed catches catches'
  | .lift context value, .lift context' value' =>
    context == context' && alikeWith boxed value value'
  | .bind context value name body, .bind context' value' name' body' =>
    context == context' && alikeWith boxed value value' && name == name' &&
      alikeWith boxed body body'
  | .block context steps, .block context' steps' =>
    context == context' && alikeStepsWith boxed steps steps'
  | _, _ => false

/-- `alikeWith` for lists of expressions. -/
def alikeAllWith {γ : Type} (boxed : β → γ → Bool) : List (Expr β) → List (Expr γ) → Bool
  | [], [] => true
  | left :: lefts, right :: rights => alikeWith boxed left right && alikeAllWith boxed lefts rights
  | _, _ => false

/-- `alikeWith` for bindings. -/
def alikeBindingsWith {γ : Type} (boxed : β → γ → Bool) :
    List (Binding (Expr β)) → List (Binding (Expr γ)) → Bool
  | [], [] => true
  | ⟨name, value⟩ :: lefts, ⟨name', value'⟩ :: rights =>
    name == name' && alikeWith boxed value value' && alikeBindingsWith boxed lefts rights
  | _, _ => false

/-- `alikeWith` for clauses. -/
def alikeClausesWith {γ : Type} (boxed : β → γ → Bool) :
    List (Clause β (Expr β)) → List (Clause γ (Expr γ)) → Bool
  | [], [] => true
  | ⟨pattern, body⟩ :: lefts, ⟨pattern', body'⟩ :: rights =>
    pattern.alikeWith boxed pattern' && alikeWith boxed body body' &&
      alikeClausesWith boxed lefts rights
  | _, _ => false

/-- `alikeWith` for catches. -/
def alikeCatchesWith {γ : Type} (boxed : β → γ → Bool) :
    List (Catch (Expr β)) → List (Catch (Expr γ)) → Bool
  | [], [] => true
  | ⟨name, test, handler⟩ :: lefts, ⟨name', test', handler'⟩ :: rights =>
    name == name' && alikeWith boxed test test' && alikeWith boxed handler handler' &&
      alikeCatchesWith boxed lefts rights
  | _, _ => false

/-- `alikeWith` for steps. -/
def alikeStepsWith {γ : Type} (boxed : β → γ → Bool) :
    List (Step (Expr β)) → List (Step (Expr γ)) → Bool
  | [], [] => true
  | ⟨name, value⟩ :: lefts, ⟨name', value'⟩ :: rights =>
    name == name' && alikeWith boxed value value' && alikeStepsWith boxed lefts rights
  | _, _ => false

end

end Expr

end GrammarKit
