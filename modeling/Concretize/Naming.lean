import Concretize.Binding
import Concretize.Text.Capital

/-!
# Generated names

A binding is named by its display name, else by the simple name of its type, capitalized. That name
goes in front of the simple name of the declaration; the package stays. Two bindings that give the
same generated name collide.
-/
namespace Concretize

/-- The capitalized name of a binding. -/
def Binding.modelName (b : Binding) : String :=
  Text.capitalizeFirst (b.displayName?.getD b.type.simpleName)

/-- The name of the hierarchy generated for a binding. -/
def Declaration.generatedName (d : Declaration) (b : Binding) : QualifiedName :=
  d.name.sibling (b.modelName ++ d.simpleName)

/-- A generated name that belongs to more than one binding. -/
structure Collision where
  name : QualifiedName
  /-- The bindings of that name, in list order. -/
  bindings : List Binding
deriving DecidableEq, Repr

/-- Orders names by their code points. -/
def nameLe (a b : QualifiedName) : Bool := decide (a.text ≤ b.text)

/-- The colliding names in code-point order, each with its bindings. -/
def Declaration.collisions (d : Declaration) (bindings : List Binding) : List Collision :=
  let names := (firstOccurrences (bindings.map d.generatedName)).mergeSort nameLe
  let groups := names.map fun name =>
    { name, bindings := bindings.filter (d.generatedName · = name) }
  groups.filter fun (c : Collision) => 1 < c.bindings.length

end Concretize
