import Concretize.Naming

/-!
# Generated hierarchies

`Declaration.instantiate` re-roots specialized variants under a generated name. Everything the
source says about the hierarchy is kept, except the annotation that asked for the generation.
-/
namespace Concretize

/-- How a generated variant relates to its generated parent. -/
inductive Supertype where
  /-- The parent is a class. -/
  | extends (parent : QualifiedName)
  /-- The parent is an interface. -/
  | implements (parent : QualifiedName)
deriving DecidableEq, Repr

/-- The generated parent. -/
def Supertype.parent : Supertype → QualifiedName
  | .extends parent => parent
  | .implements parent => parent

/-- A variant under a generated hierarchy. -/
structure GeneratedVariant where
  /-- The variant with the placeholder replaced. -/
  declaration : Variant
  supertype : Supertype
deriving DecidableEq, Repr

/-- One specialized hierarchy. -/
structure Hierarchy where
  name : QualifiedName
  /-- The declaration this was specialized from. -/
  source : QualifiedName
  kind : Kind
  modifiers : List Modifier
  /-- The source annotations without the trigger. -/
  markers : List Marker
  binding : Binding
  variants : List GeneratedVariant
deriving DecidableEq, Repr

namespace Hierarchy

/-- The simple name. -/
def simpleName (h : Hierarchy) : String := h.name.simpleName

/-- The binary name of a variant nested in the hierarchy. -/
def variantBinaryName (h : Hierarchy) (v : Variant) : String := h.name.memberBinaryName v.name

end Hierarchy

/-- Interfaces are implemented, all else is extended. -/
def Kind.supertype (kind : Kind) (parent : QualifiedName) : Supertype :=
  if kind = .interface then .implements parent else .extends parent

/-- Puts specialized variants under a generated name, and drops the trigger annotation. -/
def Declaration.instantiate (d : Declaration) (binding : Binding) (name : QualifiedName)
    (variants : List Variant) (trigger : String) : Hierarchy where
  name := name
  source := d.name
  kind := d.kind
  modifiers := d.modifiers
  markers := d.markers.filter fun m => !m.name.answersTo trigger
  binding := binding
  variants := variants.map fun v => { declaration := v, supertype := d.kind.supertype name }

end Concretize
