import Concretize.GenerationError
import Concretize.Settings

/-!
# Specialization

Replaces the placeholder by the type of a binding in every constructor parameter whose whole type
it is. A placeholder nested in a type argument is an error or is left alone, as the settings say.
-/
namespace Concretize

/-- The parameter at `index` with the placeholder replaced. -/
def Parameter.specialize (d : Declaration) (v : Variant) (binding : Binding)
    (policy : NestedPolicy) (p : Parameter) (index : Nat) : Except GenerationError Parameter :=
  if p.type.isPlaceholder then .ok { p with type := binding.type.toRef }
  else if p.type.nestsPlaceholder && policy = .reject then
    .error (.nestedPlaceholder d.name v.name (p.displayName index) p.type)
  else .ok p

/-- The parameters from `index` on with the placeholder replaced; the first fault wins. -/
def Variant.specializeParameters (d : Declaration) (v : Variant) (binding : Binding)
    (policy : NestedPolicy) : List Parameter → Nat → Except GenerationError (List Parameter)
  | [], _ => .ok []
  | p :: ps, index => do
    let q ← p.specialize d v binding policy index
    let qs ← Variant.specializeParameters d v binding policy ps (index + 1)
    return q :: qs

/-- The variant with the placeholder replaced in its constructor. -/
def Variant.specialize (d : Declaration) (binding : Binding) (policy : NestedPolicy)
    (v : Variant) : Except GenerationError Variant :=
  match v.kind with
  | .klass => do
    let parameters ← v.specializeParameters d binding policy v.parameters 0
    return { v with parameters }
  | .object | .interface =>
    if v.parameters.isEmpty then .ok v
    else .error (.unsupportedShape d.name v.name (.withParameters v.kind v.parameters.length))
  | .enumClass | .enumEntry | .annotationClass =>
    .error (.unsupportedShape d.name v.name (.wrongKind v.kind))

/-- All variants of the declaration with the placeholder replaced; the first fault wins. -/
def Declaration.specialize (d : Declaration) (binding : Binding) (policy : NestedPolicy) :
    Except GenerationError (List Variant) :=
  d.variants.mapM (Variant.specialize d binding policy)

end Concretize
