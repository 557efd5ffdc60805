import Concretize.Declaration

/-!
# Bindings

A binding is one instantiation of a hierarchy: the concrete type that replaces the placeholder and
an optional display name. `Declaration.bindings` turns the models asked for into bindings: repeated
requests count once and the order is that of first occurrence.
-/
namespace Concretize

/-- One instantiation of a hierarchy. -/
structure Binding where
  /-- Used in the generated name in place of the simple name of the type. -/
  name : Option String
  /-- Replaces the placeholder. -/
  type : TypeName
deriving DecidableEq, Repr

namespace Binding

/-- The display name, unless it is empty. -/
def displayName? (b : Binding) : Option String :=
  b.name.filter (· ≠ "")

/-- The binding as messages show it. -/
def display (b : Binding) : String :=
  match b.displayName? with
  | some name => name ++ " = " ++ b.type.display
  | none => b.type.display

end Binding

/-- The binding a request stands for; an empty name is no name. -/
def ModelRequest.toBinding (r : ModelRequest) : Binding :=
  { name := if r.name = "" then none else some r.name, type := r.type }

/-- Keeps the first occurrence of every element. -/
def firstOccurrences {α : Type} [DecidableEq α] : List α → List α
  | [] => []
  | a :: as => a :: (firstOccurrences as).filter (· ≠ a)

/-- The instantiations of a declaration: its distinct model requests in order of first
occurrence. -/
def Declaration.bindings (d : Declaration) : List Binding :=
  (firstOccurrences (d.models.getD [])).map ModelRequest.toBinding

end Concretize
