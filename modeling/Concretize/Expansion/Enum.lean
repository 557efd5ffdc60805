import Concretize.Expansion.TypeModel
import Concretize.Declaration

/-!
# Enums of code as declarations

An enum is a closed hierarchy whose variants are classes, or objects if they have no fields. Types
that others can extend become declarations that are not closed, so that a pass refuses them.
-/
namespace Concretize.Expansion

open Code

/-- The attribute that asks for specialization. -/
def trigger : String := "extensive_sealed"

/-- An attribute as an annotation: without an argument, with its tokens as one positional argument,
or with its expression as the argument `value`. -/
def markerOf (a : Attribute) : Marker where
  name := ⟨a.path.text⟩
  arguments :=
    match a.form with
    | .bare => []
    | .list _ tokens => [{ name := none, value := tokens.text }]
    | .value expression => [{ name := some "value", value := expression.text }]

/-- What a visibility says as a modifier. -/
def modifiersOf (v : Visibility) : List Modifier :=
  match v with
  | .inherited => []
  | .everyone => [.isPublic]
  | .restricted _ path =>
    if !path.leading && path.names == ["crate"] then [.isInternal] else [.other v.code.text]

/-- A field as a constructor parameter. -/
def parameterOf (f : Field) : Parameter where
  name := f.name
  type := f.type.toRef
  markers := f.attributes.map markerOf

/-- The kind of a variant. A number makes it a mere entry of the enum. -/
def kindOf (v : EnumVariant) : Kind :=
  match v.discriminant, v.fields with
  | some _, _ => .enumEntry
  | none, .unit => .object
  | none, _ => .klass

/-- A variant as a variant of the declaration. -/
def variantOf (v : EnumVariant) : Variant where
  name := v.name
  kind := kindOf v
  markers := v.attributes.map markerOf
  parameters := v.fields.list.map parameterOf

/-- An enum as a closed declaration without models. -/
def enumDeclaration (e : EnumItem) : Declaration :=
  { Declaration.sealedClass e.name with
    modifiers := .isSealed :: modifiersOf e.visibility
    markers := e.attributes.map markerOf
    variants := e.variants.map variantOf }

/-- A type that others can extend as a declaration. -/
def openDeclaration (kind : OpenKind) (v : Visibility) (name : String) : Declaration where
  name := ⟨name⟩
  kind := if kind = .trait then .interface else .klass
  modifiers := modifiersOf v

end Concretize.Expansion
