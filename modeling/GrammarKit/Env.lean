import GrammarKit.Value
/-!
# Environments

An environment binds names to values. Binding makes a new environment and leaves the old one as it
was; a later binding of a name hides the earlier ones.
-/

namespace GrammarKit

/-- Bindings of names to values, the most recent first. -/
structure Env (β : Type) where
  /-- All bindings ever made, hidden ones included. -/
  bindings : List (String × Value β)

namespace Env

variable {β : Type}

/-- The environment that binds nothing. -/
def empty : Env β := ⟨[]⟩

instance : Inhabited (Env β) := ⟨empty⟩

/-- Binds a name, hiding any earlier binding of it. -/
def bind (env : Env β) (name : String) (value : Value β) : Env β := ⟨(name, value) :: env.bindings⟩

/-- The value most recently bound to a name. -/
def lookup (env : Env β) (name : String) : Option (Value β) := env.bindings.lookup name

/-- The bindings that no later one hides, the most recent first; names in `seen` are hidden. -/
def visibleFrom (seen : List String) : List (String × Value β) → List (String × Value β)
  | [] => []
  | (name, value) :: others =>
    if name ∈ seen then visibleFrom seen others
    else (name, value) :: visibleFrom (name :: seen) others

/-- The bindings that no later one hides, the most recent first. -/
def visible (env : Env β) : List (String × Value β) := visibleFrom [] env.bindings

/-- The visible names, the most recently bound first. -/
def names (env : Env β) : List String := env.visible.map (·.1)

/-- The number of visible names. -/
def size (env : Env β) : Nat := env.names.length

/-- Binds every visible binding of `other` on top, the oldest first. -/
def extend (env other : Env β) : Env β :=
  other.visible.reverse.foldl (fun env binding => env.bind binding.1 binding.2) env

/-- Binds names and values in the order given. -/
def ofList (bindings : List (String × Value β)) : Env β :=
  bindings.foldl (fun env binding => env.bind binding.1 binding.2) empty

/-- Binds each parameter that has an argument, in order. -/
def ofCall (parameters : List String) (args : List (Value β)) : Env β :=
  ofList (parameters.zip args)

/-- The visible bindings in the order of their names, between braces. -/
def text [Payload β] (env : Env β) : String :=
  let sorted := env.visible.mergeSort fun one other => one.1 ≤ other.1
  "\x7b" ++ ", ".intercalate (sorted.map fun (name, value) => name ++ ": " ++ value.text) ++ "\x7d"

end Env

end GrammarKit
