import Concretize.Manifest
import Concretize.Proofs.Decoding

/-!
# Manifests are read back as they were written

* `Manifest.read_write`: the text of a manifest is read back as the same manifest if it nests no
  more containers than a reader admits, and is refused as malformed otherwise.

The proof has one lemma per form, each a list of the fields in the order in which they are written.
Types are the only form inside itself: a type in another takes three containers, so the bound on the
nesting of types, which falls by one, is not reached before the depth is used up.
-/
namespace Concretize

open Json (Decoder Fields Recovers decodeBool decodeNullable decodeString recovers_bool
  recovers_carrying recovers_list recovers_null recovers_nullable recovers_plain recovers_record
  recovers_string)

variable {bound : Nat}

/-! ## Leaves -/

theorem recovers_ofNullable (name : Option String) :
    Recovers bound (decodeNullable decodeString) (Json.ofNullable name) name := by
  cases name with
  | none => exact recovers_null
  | some s => exact recovers_nullable Json.noConfusion (recovers_string s)

theorem recovers_qualifiedName (name : QualifiedName) :
    Recovers bound QualifiedName.decode (.text name.text) name :=
  (recovers_string name.text).map QualifiedName.mk

theorem ofLabel?_label (k : Kind) : Kind.ofLabel? k.label = some k := by
  cases k <;> rfl

theorem recovers_kind (k : Kind) : Recovers bound Kind.decode k.toJson k :=
  recovers_plain (by rw [ofLabel?_label]; rfl)

theorem recovers_modifier (m : Modifier) : Recovers bound Modifier.decode m.toJson m := by
  cases m with
  | other token =>
    refine (recovers_carrying rfl ?_).mono (Nat.le_succ bound)
    exact (recovers_string token).map Modifier.other
  | _ => exact recovers_plain rfl

/-! ## Types -/

theorem toJsons_eq_map (ts : List TypeRef) : TypeRef.toJson.toJsons ts = ts.map TypeRef.toJson := by
  induction ts with
  | nil => rfl
  | cons t ts ih => rw [TypeRef.toJson.toJsons, ih, List.map_cons]

/-- A type name is recovered whether or not its defaults were written. -/
theorem recovers_typeMembers {argument : Decoder TypeRef} (t : TypeName)
    (h : ∀ u ∈ t.arguments, Recovers bound argument u.toJson u) :
    Recovers bound (TypeName.decodeWith argument)
      (.object (typeMembers t.path (t.arguments.map TypeRef.toJson) t.nullable)) t := by
  obtain ⟨path, arguments, nullable⟩ := t
  refine recovers_record (path, arguments, nullable, ()) rfl ?_
  have flag : Fields.Hold bound (.optional "nullable" decodeBool false .nil)
      (if nullable then [("nullable", .bool true)] else []) (nullable, ()) := by
    cases nullable with
    | true => exact .head (recovers_bool true) (by simp) .nil
    | false => exact .left (by simp) .nil
  refine .head (recovers_qualifiedName path) (by cases arguments <;> cases nullable <;> simp) ?_
  cases arguments with
  | nil => exact .left (by cases nullable <;> simp) flag
  | cons u us => exact .head (recovers_list h) (by cases nullable <;> simp) flag

/-- Types nested less than the bound are recovered. -/
theorem recovers_decodeWithin (bound : Nat) (t : TypeRef) :
    Recovers bound (TypeRef.decodeWithin bound) t.toJson t := by
  induction bound generalizing t with
  | zero => exact fun depth hd => absurd hd (Nat.not_lt_zero depth)
  | succ bound ih =>
    cases t with
    | placeholder => exact recovers_plain rfl
    | concrete path arguments nullable =>
      have content := recovers_typeMembers ⟨path, arguments, nullable⟩ fun u _ => ih u
      rw [TypeRef.toJson, toJsons_eq_map]
      exact recovers_carrying rfl (content.map TypeName.toRef)

theorem recovers_typeRef (t : TypeRef) : Recovers bound TypeRef.decode t.toJson t :=
  fun depth _ => recovers_decodeWithin (depth + 1) t depth (Nat.lt_succ_self depth)

theorem recovers_typeName (t : TypeName) : Recovers bound TypeName.decode t.toJson t :=
  recovers_typeMembers t fun u _ => recovers_typeRef u

/-! ## Declarations -/

theorem recovers_markerArgument (a : MarkerArgument) :
    Recovers bound MarkerArgument.decode a.toJson a := by
  refine recovers_record (a.name, a.value, ()) rfl ?_
  exact .head (recovers_ofNullable a.name) (by simp) <|
    .head (recovers_string a.value) (by simp) .nil

theorem recovers_marker (m : Marker) : Recovers bound Marker.decode m.toJson m := by
  refine recovers_record (m.name, m.arguments, ()) rfl ?_
  exact .head (recovers_qualifiedName m.name) (by simp) <|
    .head (recovers_list fun a _ => recovers_markerArgument a) (by simp) .nil

theorem recovers_parameter (p : Parameter) : Recovers bound Parameter.decode p.toJson p := by
  refine recovers_record (p.name, p.type, p.mutable, p.markers, ()) rfl ?_
  exact .head (recovers_ofNullable p.name) (by simp) <|
    .head (recovers_typeRef p.type) (by simp) <| .head (recovers_bool p.mutable) (by simp) <|
    .head (recovers_list fun m _ => recovers_marker m) (by simp) .nil

theorem recovers_variant (v : Variant) : Recovers bound Variant.decode v.toJson v := by
  refine recovers_record (v.name, v.kind, v.modifiers, v.markers, v.parameters, ()) rfl ?_
  exact .head (recovers_string v.name) (by simp) <| .head (recovers_kind v.kind) (by simp) <|
    .head (recovers_list fun m _ => recovers_modifier m) (by simp) <|
    .head (recovers_list fun m _ => recovers_marker m) (by simp) <|
    .head (recovers_list fun p _ => recovers_parameter p) (by simp) .nil

theorem recovers_modelRequest (r : ModelRequest) :
    Recovers bound ModelRequest.decode r.toJson r := by
  refine recovers_record (r.name, r.type, ()) rfl ?_
  exact .head (recovers_string r.name) (by simp) <| .head (recovers_typeName r.type) (by simp) .nil

/-- A declaration says whether nothing or an empty list was asked for. -/
theorem recovers_declaration (d : Declaration) :
    Recovers bound Declaration.decode d.toJson d := by
  refine recovers_record
    (d.name, d.kind, d.modifiers, d.markers, d.variants, d.models, d.origin, ()) rfl ?_
  refine .head (recovers_qualifiedName d.name) (by simp) <|
    .head (recovers_kind d.kind) (by simp) <|
    .head (recovers_list fun m _ => recovers_modifier m) (by simp) <|
    .head (recovers_list fun m _ => recovers_marker m) (by simp) <|
    .head (recovers_list fun v _ => recovers_variant v) (by simp) <|
    .head ?_ (by simp) <| .head (recovers_ofNullable d.origin) (by simp) .nil
  cases d.models with
  | none => exact recovers_null
  | some models =>
    exact recovers_nullable Json.noConfusion (recovers_list fun r _ => recovers_modelRequest r)

theorem recovers_manifest (m : Manifest) : Recovers bound Manifest.decode m.toJson m :=
  recovers_record (m.declarations, ()) rfl <|
    .head (recovers_list fun d _ => recovers_declaration d) (by simp) .nil

/-- Every manifest has a text, and from that text the same manifest is read, or, when the text nests
more than 127 containers, none. -/
theorem Manifest.read_write (m : Manifest) :
    Manifest.read m.write =
      if m.toJson.nesting ≤ 127 then .ok m else .error .malformed :=
  Json.decodeAll_pretty (recovers_manifest m)

end Concretize
