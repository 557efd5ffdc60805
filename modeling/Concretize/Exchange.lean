import Concretize.Manifest
import Concretize.Diagnostic
import Concretize.Retention
import Concretize.Settings

/-!
# JSON forms of generated things and of settings

The forms in which bindings, hierarchies, directives, diagnostics and settings are exchanged.
-/
namespace Concretize

open Json (Decoder Fields Alternative decodeRecord decodeChoice decodeList decodeString decodeBool
  decodeNullable)

/-- The greatest number that fits a machine word. -/
def wordLimit : Nat := 18446744073709551615

/-- A natural number that fits a machine word, written as an integer. -/
def Json.decodeWord : Decoder Nat
  | _, .number lexeme =>
    let n := Text.valueOf 10 lexeme
    if lexeme.all Text.isDigit ∧ n ≤ wordLimit then .ok n
    else .error (Json.mismatch (.number lexeme))
  | _, r => .error (Json.mismatch r)

/-! ## Bindings and hierarchies -/

/-- A binding. -/
def Binding.toJson (b : Binding) : Json :=
  .object [("name", .ofNullable b.name), ("ty", b.type.toJson)]

/-- A binding. -/
def Binding.decode : Decoder Binding :=
  decodeRecord
    (.optional "name" (decodeNullable decodeString) none <| .required "ty" TypeName.decode .nil)
    fun (name, type, _) => { name, type }

/-- A supertype, by how it relates to the parent. -/
def Supertype.toJson : Supertype → Json
  | .extends parent => .object [("extends", .text parent.text)]
  | .implements parent => .object [("implements", .text parent.text)]

/-- A supertype, by how it relates to the parent. -/
def Supertype.decode : Decoder Supertype :=
  decodeChoice fun
    | "extends" =>
      some (.carrying fun depth r => Supertype.extends <$> QualifiedName.decode depth r)
    | "implements" =>
      some (.carrying fun depth r => Supertype.implements <$> QualifiedName.decode depth r)
    | _ => none

/-- A generated variant. -/
def GeneratedVariant.toJson (v : GeneratedVariant) : Json :=
  .object [("declaration", v.declaration.toJson), ("supertype", v.supertype.toJson)]

/-- A generated variant. -/
def GeneratedVariant.decode : Decoder GeneratedVariant :=
  decodeRecord
    (.required "declaration" Variant.decode <| .required "supertype" Supertype.decode .nil)
    fun (declaration, supertype, _) => { declaration, supertype }

/-- A generated hierarchy. -/
def Hierarchy.toJson (h : Hierarchy) : Json :=
  .object [("name", .text h.name.text), ("source", .text h.source.text), ("kind", h.kind.toJson),
    ("modifiers", .array (h.modifiers.map Modifier.toJson)),
    ("annotations", .array (h.markers.map Marker.toJson)), ("binding", h.binding.toJson),
    ("variants", .array (h.variants.map GeneratedVariant.toJson))]

/-- A generated hierarchy. -/
def Hierarchy.decode : Decoder Hierarchy :=
  decodeRecord
    (.required "name" QualifiedName.decode <| .required "source" QualifiedName.decode <|
      .required "kind" Kind.decode <| .required "modifiers" (decodeList Modifier.decode) <|
      .required "annotations" (decodeList Marker.decode) <| .required "binding" Binding.decode <|
      .required "variants" (decodeList GeneratedVariant.decode) .nil)
    fun (name, source, kind, modifiers, markers, binding, variants, _) =>
      { name, source, kind, modifiers, markers, binding, variants }

/-! ## Directives and diagnostics -/

/-- A directive. -/
def Directive.toJson (d : Directive) : Json :=
  .object [("target", .text d.target), ("kind", d.kind.toJson),
    ("parameter_types", .array (d.parameterTypes.map .text))]

/-- A directive. -/
def Directive.decode : Decoder Directive :=
  decodeRecord
    (.required "target" decodeString <| .required "kind" Kind.decode <|
      .required "parameter_types" (decodeList decodeString) .nil)
    fun (target, kind, parameterTypes, _) => { target, kind, parameterTypes }

/-- A diagnostic, with its text. -/
def Diagnostic.toJson (d : Diagnostic) : Json :=
  .object [("severity", .text d.severity.label), ("message", .text d.message),
    ("declaration", .text d.declaration.text), ("kind", d.kind.toJson),
    ("display", .text d.display)]

/-- A severity by its name. -/
def Severity.decode : Decoder Severity :=
  decodeChoice fun
    | "info" => some (.plain .info)
    | "warning" => some (.plain .warning)
    | "error" => some (.plain .error)
    | _ => none

/-! ## Settings -/

/-- A policy for nested placeholders. -/
def NestedPolicy.toJson : NestedPolicy → Json
  | .reject => .text "reject"
  | .preserve => .text "preserve"

/-- The policy of a name. -/
def NestedPolicy.ofLabel? : String → Option NestedPolicy
  | "reject" => some .reject
  | "preserve" => some .preserve
  | _ => none

/-- A policy for name collisions. -/
def CollisionPolicy.toJson : CollisionPolicy → Json
  | .reject => .text "reject"
  | .allow => .text "allow"

/-- The policy of a name. -/
def CollisionPolicy.ofLabel? : String → Option CollisionPolicy
  | "reject" => some .reject
  | "allow" => some .allow
  | _ => none

/-- A number of workers. -/
def Workers.toJson : Workers → Json
  | .auto => .text "auto"
  | .sequential => .text "none"
  | .count n => .object [("count", .number n)]

/-- The layout of the output. -/
def Layout.toJson (l : Layout) : Json :=
  .object [("keep_rules_directory", .text l.keepRules), ("indent_width", .number l.indentWidth),
    ("file_header", .bool l.fileHeader)]

/-- Settings. -/
def Settings.toJson (s : Settings) : Json :=
  .object [("trigger_annotation", .text s.trigger), ("nested_placeholders", s.nested.toJson),
    ("name_collisions", s.collisions.toJson), ("worker_count", s.workers.toJson),
    ("output", s.layout.toJson)]

/-- A policy for nested placeholders. -/
def NestedPolicy.decode : Decoder NestedPolicy :=
  decodeChoice fun label => (NestedPolicy.ofLabel? label).map .plain

/-- A policy for name collisions. -/
def CollisionPolicy.decode : Decoder CollisionPolicy :=
  decodeChoice fun label => (CollisionPolicy.ofLabel? label).map .plain

/-- A number of workers. -/
def Workers.decode : Decoder Workers :=
  decodeChoice fun
    | "auto" => some (.plain .auto)
    | "none" => some (.plain .sequential)
    | "count" => some (.carrying fun depth r => .count <$> Json.decodeWord depth r)
    | _ => none

/-- The layout of the output. -/
def Layout.decode : Decoder Layout :=
  decodeRecord
    (.optional "keep_rules_directory" decodeString "META-INF/proguard" <|
      .optional "indent_width" Json.decodeWord 4 <| .optional "file_header" decodeBool true .nil)
    fun (keepRules, indentWidth, fileHeader, _) => { keepRules, indentWidth, fileHeader }

/-- Settings. -/
def Settings.decode : Decoder Settings :=
  decodeRecord
    (.optional "trigger_annotation" decodeString "ExtensiveSealed" <|
      .optional "nested_placeholders" NestedPolicy.decode .reject <|
      .optional "name_collisions" CollisionPolicy.decode .reject <|
      .optional "worker_count" Workers.decode .auto <| .optional "output" Layout.decode {} .nil)
    fun (trigger, nested, collisions, workers, layout, _) =>
      { trigger, nested, collisions, workers, layout }

end Concretize
