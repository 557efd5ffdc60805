import Concretize.Proofs.Editing
import Concretize.Proofs.Manifest

/-!
# Manifests that others wrote

A front end need not write a manifest as `Manifest.write` does: it may leave out members that only
repeat a default, order members in its own way, and keep members of its own beside them.
`Manifest.document` tells apart, in the serialized form of a manifest, what such edits may touch:
the objects of records are `record`s, with the members that repeat a default flagged, and the
objects of modifiers and types, which are choices, are not.

* `toJson_manifest`: the document is the serialized form, with nothing changed but the flags.
* `conveys_manifest`: a manifest is decoded from every edited form of its document. There is one
  lemma per form, a list of its fields in order, as there is for the form that is written in full.
* `Manifest.read_edited`: so it is for texts, whatever their layout.
-/
namespace Concretize

open Json (Conveys Decoder Document Edited Fields Says blank_nil conveys_choice conveys_leaf
  conveys_list conveys_nullable conveys_record decodeBool decodeList decodeNullable decodeString
  recovers_bool recovers_plain recovers_string)

/-! ## Documents -/

/-- A modifier by its name; other modifiers carry their token. -/
def Modifier.document : Modifier → Document
  | .other token => .choice "other" (.leaf (.text token))
  | m => .leaf (.text m.keyword)

/-- The record that describes a type. What is a default is not written. -/
def typeDocument (path : QualifiedName) (arguments : List Document) (nullable : Bool) : Document :=
  .record ["path", "arguments", "nullable"]
    (("path", false, .leaf (.text path.text)) ::
      (if arguments.isEmpty then [] else [("arguments", false, .list arguments)]) ++
      (if nullable then [("nullable", false, .leaf (.bool true))] else []))

/-- A type reference. -/
def TypeRef.document : TypeRef → Document
  | .placeholder => .leaf (.text "placeholder")
  | .concrete path arguments nullable =>
    .choice "concrete" (typeDocument path (documents arguments) nullable)
where
  /-- A list of type references. -/
  documents : List TypeRef → List Document
    | [] => []
    | t :: ts => document t :: documents ts

/-- A type name. -/
def TypeName.document (t : TypeName) : Document :=
  typeDocument t.path (t.arguments.map TypeRef.document) t.nullable

/-- An annotation argument. -/
def MarkerArgument.document (a : MarkerArgument) : Document :=
  .record ["name", "value"]
    [("name", a.name.isNone, .leaf (.ofNullable a.name)), ("value", false, .leaf (.text a.value))]

/-- An annotation. -/
def Marker.document (m : Marker) : Document :=
  .record ["annotation", "arguments"]
    [("annotation", false, .leaf (.text m.name.text)),
      ("arguments", m.arguments.isEmpty, .list (m.arguments.map MarkerArgument.document))]

/-- A constructor parameter. -/
def Parameter.document (p : Parameter) : Document :=
  .record ["name", "ty", "mutable", "annotations"]
    [("name", p.name.isNone, .leaf (.ofNullable p.name)), ("ty", false, p.type.document),
      ("mutable", !p.mutable, .leaf (.bool p.mutable)),
      ("annotations", p.markers.isEmpty, .list (p.markers.map Marker.document))]

/-- A variant. -/
def Variant.document (v : Variant) : Document :=
  .record ["name", "kind", "modifiers", "annotations", "parameters"]
    [("name", false, .leaf (.text v.name)), ("kind", false, .leaf v.kind.toJson),
      ("modifiers", v.modifiers.isEmpty, .list (v.modifiers.map Modifier.document)),
      ("annotations", v.markers.isEmpty, .list (v.markers.map Marker.document)),
      ("parameters", v.parameters.isEmpty, .list (v.parameters.map Parameter.document))]

/-- A model request. -/
def ModelRequest.document (r : ModelRequest) : Document :=
  .record ["name", "ty"]
    [("name", r.name.isEmpty, .leaf (.text r.name)), ("ty", false, r.type.document)]

/-- A declaration. An empty list of models is not the default: it says that something was asked. -/
def Declaration.document (d : Declaration) : Document :=
  .record ["name", "kind", "modifiers", "annotations", "variants", "configuration", "origin"]
    [("name", false, .leaf (.text d.name.text)), ("kind", false, .leaf d.kind.toJson),
      ("modifiers", d.modifiers.isEmpty, .list (d.modifiers.map Modifier.document)),
      ("annotations", d.markers.isEmpty, .list (d.markers.map Marker.document)),
      ("variants", d.variants.isEmpty, .list (d.variants.map Variant.document)),
      ("configuration", d.models.isNone,
        match d.models with
        | none => .leaf .null
        | some models => .list (models.map ModelRequest.document)),
      ("origin", d.origin.isNone, .leaf (.ofNullable d.origin))]

/-- A manifest. -/
def Manifest.document (m : Manifest) : Document :=
  .record ["declarations"]
    [("declarations", m.declarations.isEmpty, .list (m.declarations.map Declaration.document))]

/-! ## Documents are what is written -/

theorem toJson_modifier (m : Modifier) : m.document.toJson = m.toJson := by
  cases m <;> rfl

theorem toJson_typeDocument (path : QualifiedName) (arguments : List Document) (nullable : Bool) :
    (typeDocument path arguments nullable).toJson =
      .object (typeMembers path (Document.toJson.toJsons arguments) nullable) := by
  cases arguments <;> cases nullable <;> rfl

mutual

theorem toJson_typeRef : ∀ t : TypeRef, t.document.toJson = t.toJson
  | .placeholder => rfl
  | .concrete path arguments nullable => by
    rw [TypeRef.document, Document.toJson, toJson_typeDocument, toJsons_documents arguments,
      TypeRef.toJson]

theorem toJsons_documents : ∀ ts : List TypeRef,
    Document.toJson.toJsons (TypeRef.document.documents ts) = TypeRef.toJson.toJsons ts
  | [] => rfl
  | t :: ts => by
    rw [TypeRef.document.documents, Document.toJson.toJsons, toJson_typeRef t,
      toJsons_documents ts, TypeRef.toJson.toJsons]

end

/-- The documents of a list are its values if they are so one by one. -/
theorem toJson_list {α : Type} {document : α → Document} {toJson : α → Json}
    (h : ∀ a, (document a).toJson = toJson a) (items : List α) :
    (Document.list (items.map document)).toJson = .array (items.map toJson) := by
  rw [Document.toJson, Json.toJsons_map, List.map_congr_left fun a _ => h a]

theorem toJson_typeName (t : TypeName) : t.document.toJson = t.toJson := by
  rw [TypeName.document, toJson_typeDocument, Json.toJsons_map,
    List.map_congr_left fun u _ => toJson_typeRef u, TypeName.toJson]

theorem toJson_markerArgument (a : MarkerArgument) : a.document.toJson = a.toJson := rfl

theorem toJson_marker (m : Marker) : m.document.toJson = m.toJson := by
  simp only [Marker.document, Document.toJson, Document.toJson.memberJsons,
    Json.toJsons_map, toJson_markerArgument, Marker.toJson]

theorem toJson_parameter (p : Parameter) : p.document.toJson = p.toJson := by
  simp only [Parameter.document, Document.toJson, Document.toJson.memberJsons, Json.toJsons_map,
    toJson_marker, toJson_typeRef, Parameter.toJson]

theorem toJson_variant (v : Variant) : v.document.toJson = v.toJson := by
  simp only [Variant.document, Document.toJson, Document.toJson.memberJsons, Json.toJsons_map,
    toJson_modifier, toJson_marker, toJson_parameter, Variant.toJson]

theorem toJson_modelRequest (r : ModelRequest) : r.document.toJson = r.toJson := by
  simp only [ModelRequest.document, Document.toJson, Document.toJson.memberJsons, toJson_typeName,
    ModelRequest.toJson]

theorem toJson_declaration (d : Declaration) : d.document.toJson = d.toJson := by
  obtain ⟨name, kind, modifiers, markers, variants, models, origin⟩ := d
  cases models <;>
    simp only [Declaration.document, Document.toJson, Document.toJson.memberJsons,
      Json.toJsons_map, toJson_modifier, toJson_marker, toJson_variant, toJson_modelRequest,
      Declaration.toJson]

theorem toJson_manifest (m : Manifest) : m.document.toJson = m.toJson := by
  simp only [Manifest.document, Document.toJson, Document.toJson.memberJsons, Json.toJsons_map,
    toJson_declaration, Manifest.toJson]

/-! ## Decoding edited documents -/

variable {bound : Nat}

theorem conveys_ofNullable (name : Option String) :
    Conveys bound (decodeNullable decodeString) (.leaf (.ofNullable name)) name :=
  conveys_leaf (recovers_ofNullable name)

theorem conveys_modifier (m : Modifier) : Conveys bound Modifier.decode m.document m := by
  cases m with
  | other token =>
    refine (conveys_choice rfl ?_).mono (Nat.le_succ bound)
    exact (conveys_leaf (recovers_string token)).map Modifier.other
  | _ => exact conveys_leaf (recovers_plain rfl)

theorem documents_eq_map (ts : List TypeRef) :
    TypeRef.document.documents ts = ts.map TypeRef.document := by
  induction ts with
  | nil => rfl
  | cons t ts ih => rw [TypeRef.document.documents, ih, List.map_cons]

theorem conveys_typeDocument {argument : Decoder TypeRef} (t : TypeName)
    (h : ∀ u ∈ t.arguments, Conveys bound argument u.document u) :
    Conveys bound (TypeName.decodeWith argument)
      (typeDocument t.path (t.arguments.map TypeRef.document) t.nullable) t := by
  obtain ⟨path, arguments, nullable⟩ := t
  refine conveys_record (path, arguments, nullable, ()) rfl rfl (by decide) ?_
  have flag : Fields.Given bound (.optional "nullable" decodeBool false .nil)
      (if nullable then [("nullable", false, .leaf (.bool true))] else []) (nullable, ()) := by
    cases nullable with
    | true => exact .written (conveys_leaf (recovers_bool true)) nofun .nil
    | false => exact .unwritten .nil
  refine .written (conveys_leaf (recovers_qualifiedName path)) nofun ?_
  cases arguments with
  | nil => exact .unwritten flag
  | cons u us => exact .written (conveys_list h) nofun flag

/-- Types nested less than the bound are decoded. -/
theorem conveys_decodeWithin (bound : Nat) (t : TypeRef) :
    Conveys bound (TypeRef.decodeWithin bound) t.document t := by
  induction bound generalizing t with
  | zero => exact fun r _ _ depth hd => absurd hd (Nat.not_lt_zero depth)
  | succ bound ih =>
    cases t with
    | placeholder => exact conveys_leaf (recovers_plain rfl)
    | concrete path arguments nullable =>
      have content := conveys_typeDocument ⟨path, arguments, nullable⟩ fun u _ => ih u
      rw [TypeRef.document, documents_eq_map]
      exact conveys_choice rfl (content.map TypeName.toRef)

theorem conveys_typeRef (t : TypeRef) : Conveys bound TypeRef.decode t.document t :=
  fun r edited sound depth _ =>
    conveys_decodeWithin (depth + 1) t r edited sound depth (Nat.lt_succ_self depth)

theorem conveys_typeName (t : TypeName) : Conveys bound TypeName.decode t.document t :=
  conveys_typeDocument t fun u _ => conveys_typeRef u

/-- A list whose default is to be empty. -/
theorem isEmpty_spare {α : Type} {items : List α} (h : items.isEmpty = true) :
    some [] = some items := by
  rw [List.isEmpty_iff.1 h]

/-- A value whose default is to be absent. -/
theorem isNone_spare {α : Type} {value : Option α} (h : value.isNone = true) :
    some none = some value := by
  rw [Option.isNone_iff_eq_none.1 h]

theorem conveys_markerArgument (a : MarkerArgument) :
    Conveys bound MarkerArgument.decode a.document a := by
  refine conveys_record (a.name, a.value, ()) rfl rfl (by decide) ?_
  exact .written (conveys_ofNullable a.name) isNone_spare <|
    .written (conveys_leaf (recovers_string a.value)) nofun .nil

theorem conveys_marker (m : Marker) : Conveys bound Marker.decode m.document m := by
  refine conveys_record (m.name, m.arguments, ()) rfl rfl (by decide) ?_
  exact .written (conveys_leaf (recovers_qualifiedName m.name)) nofun <|
    .written (conveys_list fun a _ => conveys_markerArgument a) isEmpty_spare .nil

theorem conveys_parameter (p : Parameter) : Conveys bound Parameter.decode p.document p := by
  refine conveys_record (p.name, p.type, p.mutable, p.markers, ()) rfl rfl (by decide) ?_
  exact .written (conveys_ofNullable p.name) isNone_spare <|
    .written (conveys_typeRef p.type) nofun <|
    .written (conveys_leaf (recovers_bool p.mutable)) (by simp) <|
    .written (conveys_list fun m _ => conveys_marker m) isEmpty_spare .nil

theorem conveys_variant (v : Variant) : Conveys bound Variant.decode v.document v := by
  refine conveys_record (v.name, v.kind, v.modifiers, v.markers, v.parameters, ()) rfl rfl
    (by decide) ?_
  exact .written (conveys_leaf (recovers_string v.name)) nofun <|
    .written (conveys_leaf (recovers_kind v.kind)) nofun <|
    .written (conveys_list fun m _ => conveys_modifier m) isEmpty_spare <|
    .written (conveys_list fun m _ => conveys_marker m) isEmpty_spare <|
    .written (conveys_list fun p _ => conveys_parameter p) isEmpty_spare .nil

theorem conveys_modelRequest (r : ModelRequest) :
    Conveys bound ModelRequest.decode r.document r := by
  refine conveys_record (r.name, r.type, ()) rfl rfl (by decide) ?_
  exact .written (conveys_leaf (recovers_string r.name)) (by simp +contextual) <|
    .written (conveys_typeName r.type) nofun .nil

theorem conveys_declaration (d : Declaration) :
    Conveys bound Declaration.decode d.document d := by
  refine conveys_record
    (d.name, d.kind, d.modifiers, d.markers, d.variants, d.models, d.origin, ()) rfl rfl
    (by decide) ?_
  refine .written (conveys_leaf (recovers_qualifiedName d.name)) nofun <|
    .written (conveys_leaf (recovers_kind d.kind)) nofun <|
    .written (conveys_list fun m _ => conveys_modifier m) isEmpty_spare <|
    .written (conveys_list fun m _ => conveys_marker m) isEmpty_spare <|
    .written (conveys_list fun v _ => conveys_variant v) isEmpty_spare <|
    .written ?_ isNone_spare <| .written (conveys_ofNullable d.origin) isNone_spare .nil
  cases d.models with
  | none => exact conveys_leaf Json.recovers_null
  | some models => exact conveys_nullable nofun (conveys_list fun r _ => conveys_modelRequest r)

theorem conveys_manifest (m : Manifest) : Conveys bound Manifest.decode m.document m :=
  conveys_record (m.declarations, ()) rfl rfl (by decide) <|
    .written (conveys_list fun d _ => conveys_declaration d) isEmpty_spare .nil

/-- What a manifest says may be edited as its document admits, and said in any layout: the manifest
that is read is the same, as long as its own form nests no more containers than a reader admits. -/
theorem Manifest.read_edited (m : Manifest) (fits : m.toJson.nesting ≤ 127) :
    m.document.toJson = m.toJson ∧ Edited m.document (Json.reading m.toJson) ∧
      ∀ r text, Edited m.document r → Json.TextSays r text → Manifest.read text = .ok m := by
  have same := toJson_manifest m
  refine ⟨same, same ▸ Json.edited_reading m.document, fun r text edited said => ?_⟩
  obtain ⟨ws, cs, vs, hw, h, hv, ht⟩ := said
  have content := conveys_manifest m r edited (Json.skipFault_of_says h) 127
    (Nat.lt_succ_self 127) (same.symm ▸ fits)
  have blank : vs.all Json.isBlank = true := List.all_eq_true.2 hv
  simp only [Manifest.read, Json.decodeAll, Json.read_says h hw hv ht, Json.depthLimit, content,
    bind, Except.bind, blank, if_true]

/-- A class of which nothing is said but its name. -/
def bareClass : Declaration := { name := ⟨"A"⟩, kind := .klass }

/-- The text has members out of order, one of no field, and none that repeats a default. -/
theorem Manifest.read_sparse :
    (Manifest.mk [bareClass]).toJson.nesting ≤ 127 ∧
      Manifest.read (" \x7b\"since\":-1.5e3,\"declarations\":" ++
          "[\x7b\"kind\":\"class\",\"name\":\"A\"\x7d]\x7d\n") =
        .ok ⟨[bareClass]⟩ := by
  have fits : (Manifest.mk [bareClass]).toJson.nesting ≤ 127 := by decide
  have quoted (s : String) : Json.Quotes (s.toList.flatMap Json.escapeChar) (.ok s.toList) :=
    Json.quotes_flatMap s.toList
  have digits (d : Char) (h : Text.isDigit d = true) : Json.IsDigits [d] :=
    ⟨List.cons_ne_nil _ _, List.forall_mem_singleton.2 h⟩
  have number : Json.IsNumber "-1.5e3".toList :=
    .parts (.inr rfl) ⟨digits '1' rfl, by decide⟩ (.digits (digits '5' rfl))
      (.digits (.inl rfl) (.inl rfl) (digits '3' rfl))
  have declaration := Says.object blank_nil <|
    .more (quoted "kind") blank_nil blank_nil (.text (quoted "class")) blank_nil blank_nil <|
    .one (quoted "name") blank_nil blank_nil (.text (quoted "A")) blank_nil
  have whole := Says.object blank_nil <|
    .more (quoted "since") blank_nil blank_nil (.number number) blank_nil blank_nil <|
    .one (quoted "declarations") blank_nil blank_nil
      (.array (.one blank_nil declaration blank_nil)) blank_nil
  simp only [Except.map, String.ofList_toList] at whole
  have kept : Edited bareClass.document
      (.object [(.ok "kind", .text (.ok "class")), (.ok "name", .text (.ok "A"))] .closed) :=
    .record
      (.keep (.leaf (.text "A")) <| .keep (.leaf (.text "class")) <| .drop <| .drop <| .drop <|
        .drop <| .drop .nil)
      (List.forall_mem_nil _) (List.Perm.swap _ _ [])
  have foreign : Json.Foreign ["declarations"] (.ok "since", .number "-1.5e3".toList) :=
    ⟨"since", rfl, by decide⟩
  have edited : Edited (Manifest.mk [bareClass]).document _ :=
    .record (.keep (.list (.cons kept .nil)) .nil) (List.forall_mem_singleton.2 foreign)
      (List.Perm.swap _ _ [])
  exact ⟨fits, (Manifest.read_edited _ fits).2.2 _ _ edited
    ⟨[' '], _, ['\n'], Json.blank_space, whole, List.forall_mem_singleton.2 rfl, rfl⟩⟩

end Concretize
