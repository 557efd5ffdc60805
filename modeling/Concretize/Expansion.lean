import Concretize.Expansion.Arguments
import Concretize.Expansion.Enum
import Concretize.Pass

/-!
# Expansion of an enum in code

`expand` runs a pass over the declaration that an item stands for, and writes every hierarchy it
gives as an enum. What the declaration keeps as text is read as code again, by a `Reader`.
`Expanded.code` is the item itself with these enums after it.
-/
namespace Concretize.Expansion

open Code

/-- What texts are read by. -/
class Reader where
  /-- The attributes that a text spells. -/
  attributes : String → Option (List Attribute)
  /-- The type that a text spells. -/
  type : String → Option TypeForm
  /-- The type that a text begins with. -/
  typeBegins : String → Option TypeForm
  /-- The name that a text spells. -/
  name : String → Option String

/-- Texts are read by the grammar of code. -/
instance : Reader where
  attributes text := (Code.ofText? text).bind Code.attributesOf?
  type := Code.typeOfText?
  typeBegins text := (Code.ofText? text).bind Code.typeBegins?
  name text := (Code.ofText? text).bind Code.nameOf?

/-- Why an item was not expanded. -/
inductive ExpansionError where
  | notEnum
  | genericEnum
  /-- The pass failed, with the texts of its diagnostics. -/
  | refused (messages : List String)
  | unusableName (name : String)
  /-- The code of a model or of an attribute cannot be read; the text tells where reading ended. -/
  | unreadable (message : String)
deriving DecidableEq, Repr

/-- The texts of an error. -/
def ExpansionError.messages : ExpansionError → List String
  | .notEnum => ["#[extensive_sealed] can only be attached to an enum"]
  | .genericEnum =>
    ["#[extensive_sealed] does not support generic enums; " ++
      "use \x60Extensive\x60 as the payload type"]
  | .refused messages => messages
  | .unusableName name =>
    ["generated name \x60" ++ name ++ "\x60 is not a valid identifier; " ++
      "give the model a \x60name = \"...\"\x60"]
  | .unreadable message => [message]

/-- The declaration that an item stands for. -/
def declarationOf : Item → Except ExpansionError Declaration
  | .enumeration e => if e.generic then throw .genericEnum else return enumDeclaration e
  | .extensible kind visibility name => return openDeclaration kind visibility name
  | .other => throw .notEnum

/-- The settings of the pass over an item. -/
def settings : Settings := { trigger, workers := .sequential }

/-- An annotation as it is written in code. -/
def markerText (m : Marker) : String :=
  let content := match m.arguments with
    | [] => m.name.text
    | a :: _ =>
      if a.name.isSome then m.name.text ++ " = " ++ a.value
      else m.name.text ++ "(" ++ a.value ++ ")"
  "#[" ++ content ++ "]"

/-- What is wrong with code after which something is left over. -/
def leftOver : String := "unexpected token"

section
variable [Reader]

/-- Annotations as attributes. -/
def attributesOf (markers : List Marker) : Except ExpansionError (List Attribute) := do
  let lists ← markers.mapM fun m =>
    match Reader.attributes (markerText m) with
    | some attributes => return attributes
    | none => throw (.unreadable leftOver)
  return lists.flatten

/-- The type of a parameter in code. If its text goes on after a type, this is told of it; otherwise
an argument inside it does. -/
def formOf (t : TypeRef) : Except ExpansionError TypeForm :=
  match Reader.type t.sourceText with
  | some form => return form
  | none =>
    let whole := (Reader.typeBegins t.sourceText).isSome
    throw (.unreadable (if whole then leftOver else "expected \x60,\x60"))

/-- A field of a specialized variant. A type that specialization left alone stays as written. -/
def fieldOf (source : Field) (p : Parameter) : Except ExpansionError Field := do
  let attributes ← attributesOf p.markers
  let type ← if p.type = source.type.toRef then pure source.type else formOf p.type
  return { attributes, visibility := .inherited, name := source.name, type }

/-- The fields of a specialized variant, in the brackets of the source. -/
def fieldsOf (source : Fields) (parameters : List Parameter) : Except ExpansionError Fields := do
  let fields ← (source.list.zip parameters).mapM fun (f, p) => fieldOf f p
  return match source with
    | .unit => .unit
    | .unnamed .. => .unnamed fields false
    | .named .. => .named fields false

/-- A specialized variant. -/
def enumVariantOf (source : EnumVariant) (v : Variant) : Except ExpansionError EnumVariant := do
  let attributes ← attributesOf v.markers
  let fields ← fieldsOf source.fields v.parameters
  return { attributes, name := source.name, fields, discriminant := none }

/-- The documentation of a generated enum. -/
def documentation (source : EnumItem) (h : Hierarchy) : Attribute :=
  let text := " Specialization of [\x60" ++ source.name ++ "\x60] for \x60" ++
    h.binding.type.display ++ "\x60."
  { path := { names := ["doc"] }, form := .value [Literal.ofText text.toList] }

/-- A hierarchy that was specialized from an enum, as an enum. -/
def enumOf (source : EnumItem) (h : Hierarchy) : Except ExpansionError EnumItem := do
  let some name := Reader.name h.simpleName | throw (.unusableName h.simpleName)
  let attributes ← attributesOf h.markers
  let variants ← (source.variants.zip h.variants).mapM fun (v, g) => enumVariantOf v g.declaration
  return { attributes := documentation source h :: attributes, visibility := source.visibility, name
           generic := false, parameters := [], variants, trailing := true }

end

/-- An enum and what was generated from it. -/
structure Expanded where
  source : EnumItem
  generated : List EnumItem

/-- The enum and all that was generated from it as code. -/
def Expanded.code (x : Expanded) : Code := x.source.code ++ x.generated.flatMap EnumItem.code

/-- Expands an item for models. -/
def expand [Reader] (models : List ModelRequest) (item : Item) : Except ExpansionError Expanded := do
  let declaration := models.foldl Declaration.request (← declarationOf item)
  let collected := (settings.run [declaration] ({} : Collected)).emitter
  unless collected.errors.isEmpty do
    throw (.refused (collected.errors.map (·.message)))
  let .enumeration source := item | throw .notEnum
  return { source, generated := ← collected.hierarchies.mapM (enumOf source) }

end Concretize.Expansion
