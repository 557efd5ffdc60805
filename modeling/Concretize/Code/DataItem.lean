import Concretize.Code.Attribute
import Concretize.Code.TypeForm

/-!
# Enums in code

The parts of an enum that a specialization reads and writes again. Lists remember whether a comma
stands after their last member.
-/
namespace Concretize.Code

/-- A field of a variant, of a struct or of a union. -/
structure Field where
  attributes : List Attribute
  visibility : Visibility
  name : Option String
  type : TypeForm

/-- The field as code. -/
def Field.code (f : Field) : Code :=
  Attribute.listCode f.attributes ++ f.visibility.code ++
    (match f.name with
      | some n => .word n :: ofOperator [':']
      | none => []) ++ f.type.code

/-- The fields of a variant. -/
inductive Fields where
  | unit
  | unnamed (fields : List Field) (trailing : Bool)
  | named (fields : List Field) (trailing : Bool)

namespace Fields

/-- The fields in order. -/
def list : Fields → List Field
  | unit => []
  | unnamed fields _ => fields
  | named fields _ => fields

/-- The fields as code, in their brackets. -/
def code : Fields → Code
  | unit => []
  | unnamed fields trailing => [.group .round (withCommas trailing (fields.map Field.code))]
  | named fields trailing => [.group .curly (withCommas trailing (fields.map Field.code))]

end Fields

/-- A variant of an enum. -/
structure EnumVariant where
  attributes : List Attribute
  name : String
  fields : Fields
  /-- The number that the variant is given, if it is. -/
  discriminant : Option Code

/-- The variant as code. -/
def EnumVariant.code (v : EnumVariant) : Code :=
  Attribute.listCode v.attributes ++ .word v.name :: v.fields.code ++
    (match v.discriminant with
      | some d => ofOperator ['='] ++ d
      | none => [])

/-- An enum. -/
structure EnumItem where
  attributes : List Attribute
  visibility : Visibility
  name : String
  /-- Whether it has generic parameters or conditions on them. -/
  generic : Bool
  /-- Its generic parameters and conditions as code. -/
  parameters : Code
  variants : List EnumVariant
  trailing : Bool

/-- The enum as code. -/
def EnumItem.code (e : EnumItem) : Code :=
  Attribute.listCode e.attributes ++ e.visibility.code ++
    [.word "enum", .word e.name] ++ e.parameters ++
    [.group .curly (withCommas e.trailing (e.variants.map EnumVariant.code))]

/-- The kinds of types that are not closed, and so cannot be specialized. -/
inductive OpenKind where
  | struct
  | union
  | trait
deriving DecidableEq

/-- An item of code, as far as a specialization looks at it. -/
inductive Item where
  | enumeration (e : EnumItem)
  /-- A type that others can extend. -/
  | extensible (kind : OpenKind) (visibility : Visibility) (name : String)
  /-- Any other item. -/
  | other

end Concretize.Code
