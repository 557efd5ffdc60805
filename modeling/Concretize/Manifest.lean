import Concretize.Json.Decoding
import Concretize.Declaration

/-!
# Manifests

A manifest hands over declarations as JSON text: `Manifest.write` writes it, indented and in full,
and `Manifest.read` reads it back. What is written of a type leaves out empty arguments and a false
nullability; everything else is written even when it is a default.
-/
namespace Concretize

open Json (Decoder Fields Alternative decodeRecord decodeChoice decodeList decodeString decodeBool
  decodeNullable)

/-! ## Writing -/

/-- A text or null. -/
def Json.ofNullable : Option String → Json
  | none => .null
  | some s => .text s

/-- The name of a kind. -/
def Kind.label : Kind → String
  | .klass => "class"
  | .interface => "interface"
  | .object => "object"
  | .enumClass => "enum_class"
  | .enumEntry => "enum_entry"
  | .annotationClass => "annotation_class"

/-- A kind by its name. -/
def Kind.toJson (k : Kind) : Json := .text k.label

/-- A modifier by its name; other modifiers carry their token. -/
def Modifier.toJson : Modifier → Json
  | .other token => .object [("other", .text token)]
  | m => .text m.keyword

/-- The members that describe a type: the path, and what is not a default. -/
def typeMembers (path : QualifiedName) (arguments : List Json) (nullable : Bool) :
    List (String × Json) :=
  ("path", .text path.text) ::
    (if arguments.isEmpty then [] else [("arguments", .array arguments)]) ++
    (if nullable then [("nullable", .bool true)] else [])

/-- A type reference. -/
def TypeRef.toJson : TypeRef → Json
  | .placeholder => .text "placeholder"
  | .concrete path arguments nullable =>
    .object [("concrete", .object (typeMembers path (toJsons arguments) nullable))]
where
  /-- A list of type references. -/
  toJsons : List TypeRef → List Json
    | [] => []
    | t :: ts => toJson t :: toJsons ts

/-- A type name. -/
def TypeName.toJson (t : TypeName) : Json :=
  .object (typeMembers t.path (t.arguments.map TypeRef.toJson) t.nullable)

/-- An annotation argument. -/
def MarkerArgument.toJson (a : MarkerArgument) : Json :=
  .object [("name", .ofNullable a.name), ("value", .text a.value)]

/-- An annotation. -/
def Marker.toJson (m : Marker) : Json :=
  .object [("annotation", .text m.name.text),
    ("arguments", .array (m.arguments.map MarkerArgument.toJson))]

/-- A constructor parameter. -/
def Parameter.toJson (p : Parameter) : Json :=
  .object [("name", .ofNullable p.name), ("ty", p.type.toJson), ("mutable", .bool p.mutable),
    ("annotations", .array (p.markers.map Marker.toJson))]

/-- A variant. -/
def Variant.toJson (v : Variant) : Json :=
  .object [("name", .text v.name), ("kind", v.kind.toJson),
    ("modifiers", .array (v.modifiers.map Modifier.toJson)),
    ("annotations", .array (v.markers.map Marker.toJson)),
    ("parameters", .array (v.parameters.map Parameter.toJson))]

/-- A model request. -/
def ModelRequest.toJson (r : ModelRequest) : Json :=
  .object [("name", .text r.name), ("ty", r.type.toJson)]

/-- A declaration. -/
def Declaration.toJson (d : Declaration) : Json :=
  .object [("name", .text d.name.text), ("kind", d.kind.toJson),
    ("modifiers", .array (d.modifiers.map Modifier.toJson)),
    ("annotations", .array (d.markers.map Marker.toJson)),
    ("variants", .array (d.variants.map Variant.toJson)),
    ("configuration",
      match d.models with
      | none => .null
      | some models => .array (models.map ModelRequest.toJson)),
    ("origin", .ofNullable d.origin)]

/-! ## Reading -/

/-- The kind of a name. -/
def Kind.ofLabel? : String → Option Kind
  | "class" => some .klass
  | "interface" => some .interface
  | "object" => some .object
  | "enum_class" => some .enumClass
  | "enum_entry" => some .enumEntry
  | "annotation_class" => some .annotationClass
  | _ => none

/-- A kind by its name. -/
def Kind.decode : Decoder Kind :=
  decodeChoice fun label => (Kind.ofLabel? label).map .plain

/-- A modifier by its name. -/
def Modifier.decode : Decoder Modifier :=
  decodeChoice fun
    | "public" => some (.plain .isPublic)
    | "internal" => some (.plain .isInternal)
    | "protected" => some (.plain .isProtected)
    | "private" => some (.plain .isPrivate)
    | "sealed" => some (.plain .isSealed)
    | "abstract" => some (.plain .isAbstract)
    | "open" => some (.plain .isOpen)
    | "data" => some (.plain .isData)
    | "value" => some (.plain .isValue)
    | "other" => some (.carrying fun depth r => .other <$> decodeString depth r)
    | _ => none

/-- A qualified name. -/
def QualifiedName.decode : Decoder QualifiedName := fun depth r =>
  QualifiedName.mk <$> decodeString depth r

/-- A type name, given how to decode its arguments. -/
def TypeName.decodeWith (argument : Decoder TypeRef) : Decoder TypeName :=
  decodeRecord
    (.required "path" QualifiedName.decode <| .optional "arguments" (decodeList argument) [] <|
      .optional "nullable" decodeBool false .nil)
    fun (path, arguments, nullable, _) => { path, arguments, nullable }

/-- A type reference. The bound is on the nesting of types; a type inside another takes three
containers, so the depth runs out first. -/
def TypeRef.decodeWithin : Nat → Decoder TypeRef
  | 0 => fun _ _ => .error .malformed
  | bound + 1 =>
    decodeChoice fun
      | "placeholder" => some (.plain .placeholder)
      | "concrete" =>
        some (.carrying fun depth r =>
          TypeName.toRef <$> TypeName.decodeWith (TypeRef.decodeWithin bound) depth r)
      | _ => none

/-- A type reference. -/
def TypeRef.decode : Decoder TypeRef := fun depth r => TypeRef.decodeWithin (depth + 1) depth r

/-- A type name. -/
def TypeName.decode : Decoder TypeName := TypeName.decodeWith TypeRef.decode

/-- An annotation argument. -/
def MarkerArgument.decode : Decoder MarkerArgument :=
  decodeRecord
    (.optional "name" (decodeNullable decodeString) none <| .required "value" decodeString .nil)
    fun (name, value, _) => { name, value }

/-- An annotation. -/
def Marker.decode : Decoder Marker :=
  decodeRecord
    (.required "annotation" QualifiedName.decode <|
      .optional "arguments" (decodeList MarkerArgument.decode) [] .nil)
    fun (name, arguments, _) => { name, arguments }

/-- A constructor parameter. -/
def Parameter.decode : Decoder Parameter :=
  decodeRecord
    (.optional "name" (decodeNullable decodeString) none <| .required "ty" TypeRef.decode <|
      .optional "mutable" decodeBool false <|
      .optional "annotations" (decodeList Marker.decode) [] .nil)
    fun (name, type, mutable, markers, _) => { name, type, mutable, markers }

/-- A variant. -/
def Variant.decode : Decoder Variant :=
  decodeRecord
    (.required "name" decodeString <| .required "kind" Kind.decode <|
      .optional "modifiers" (decodeList Modifier.decode) [] <|
      .optional "annotations" (decodeList Marker.decode) [] <|
      .optional "parameters" (decodeList Parameter.decode) [] .nil)
    fun (name, kind, modifiers, markers, parameters, _) =>
      { name, kind, modifiers, markers, parameters }

/-- A model request. -/
def ModelRequest.decode : Decoder ModelRequest :=
  decodeRecord
    (.optional "name" decodeString "" <| .required "ty" TypeName.decode .nil)
    fun (name, type, _) => { name, type }

/-- A declaration. -/
def Declaration.decode : Decoder Declaration :=
  decodeRecord
    (.required "name" QualifiedName.decode <| .required "kind" Kind.decode <|
      .optional "modifiers" (decodeList Modifier.decode) [] <|
      .optional "annotations" (decodeList Marker.decode) [] <|
      .optional "variants" (decodeList Variant.decode) [] <|
      .optional "configuration" (decodeNullable (decodeList ModelRequest.decode)) none <|
      .optional "origin" (decodeNullable decodeString) none .nil)
    fun (name, kind, modifiers, markers, variants, models, origin, _) =>
      { name, kind, modifiers, markers, variants, models, origin }

/-! ## Whole manifests -/

/-- Declarations to be handed over. -/
structure Manifest where
  declarations : List Declaration := []
deriving DecidableEq, Repr

namespace Manifest

/-- A manifest as a value. -/
def toJson (m : Manifest) : Json :=
  .object [("declarations", .array (m.declarations.map Declaration.toJson))]

/-- The text of a manifest. -/
def write (m : Manifest) : String := m.toJson.pretty

/-- A manifest. -/
def decode : Decoder Manifest :=
  decodeRecord (.optional "declarations" (decodeList Declaration.decode) [] .nil)
    fun (declarations, _) => { declarations }

/-- Reads the text of a manifest. -/
def read (text : String) : Except Json.Category Manifest :=
  Json.decodeAll decode text

end Manifest

end Concretize
