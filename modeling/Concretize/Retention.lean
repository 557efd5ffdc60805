import Concretize.Hierarchy

/-!
# Retention

Reflection must find generated variants after shrinking. A `Directive` names a variant by its binary
name and, for a class, lists the erased types of its constructor.
-/
namespace Concretize

/-- What must be kept of one generated variant. -/
structure Directive where
  /-- The binary name of the variant. -/
  target : String
  kind : Kind
  /-- The erased constructor parameter types. -/
  parameterTypes : List String
deriving DecidableEq, Repr

/-- The erased constructor parameter types of a class; other kinds have no constructor. -/
def Variant.erasedParameters (v : Variant) : List String :=
  if v.kind = .klass then v.parameters.map (·.type.erased) else []

/-- One directive per variant, in order. -/
def Hierarchy.directives (h : Hierarchy) : List Directive :=
  h.variants.map fun v =>
    { target := h.variantBinaryName v.declaration
      kind := v.declaration.kind
      parameterTypes := v.declaration.erasedParameters }

end Concretize
