import Concretize.Proofs.Acceptance
import Concretize.Proofs.Lexing
import Concretize.Proofs.Sibling

/-!
# Names of generated enums

The names of the enums that an expansion writes are read from the simple names of the generated
hierarchies. The pass takes care that no two hierarchies have the same name; whether two enums can
is decided by what is read.

* `generated_names_read`: the names of the enums, each read from that generated for its model.
* `identifiers_distinct`: which names the enums have, and that they differ from each other and from
  the source, where every model has a name that stands for itself (`SpelledOut`).
* `versionedModels_coincide`: three names with a separator, which are cut in front of the same rest.
-/
namespace Concretize.Expansion

open Code

variable {source : EnumItem} {models : List ModelRequest} {model : ModelRequest}

/-! ## Names of an expansion -/

theorem name_of_enumOf [Reader] {h : Hierarchy} {e : EnumItem} (written : enumOf source h = .ok e) :
    Reader.name h.simpleName = some e.name := by
  unfold enumOf at written
  split at written
  · next name read =>
    simp only [bind_eq_ok_iff, pure, Except.pure, Except.ok.injEq] at written
    obtain ⟨attributes, -, variants, -, rfl⟩ := written
    exact read
  · cases written

/-! ## Names that stand for themselves -/

/-- The name of a model in front of that of the enum. -/
def frontedName (source : EnumItem) (model : ModelRequest) : String :=
  model.toBinding.modelName ++ source.name

/-- A model has a name, and in front of that of the enum it stands for itself: nothing separates its
parts, and no part of it is blank or could begin a comment. -/
structure SpelledOut (source : EnumItem) (model : ModelRequest) : Prop where
  named : model.toBinding.modelName ≠ ""
  joined : ¬ Separated (frontedName source model).toList
  solid : ∀ c ∈ (frontedName source model).toList, Lexing.Solid c

theorem spelledOut_iff : SpelledOut source model ↔
    model.toBinding.modelName ≠ "" ∧ splitName (frontedName source model).toList = none ∧
      (frontedName source model).toList.all (Lexing.Solid ·) := by
  rw [splitName_eq_none_iff, List.all_iff_forall_prop]
  exact ⟨fun ⟨named, joined, solid⟩ => ⟨named, joined, solid⟩,
    fun ⟨named, joined, solid⟩ => ⟨named, joined, solid⟩⟩

instance : Decidable (SpelledOut source model) := decidable_of_iff' _ spelledOut_iff

theorem nameFor_eq (joined : ¬ Separated (frontedName source model).toList) :
    nameFor source model = ⟨frontedName source model⟩ := by
  have whole : splitName source.name.toList = none := by
    rw [frontedName, String.toList_append, separated_append] at joined
    exact splitName_eq_none_iff.2 fun h => joined (.inr (.inl h))
  have top : (enumDeclaration source).name = ⟨source.name⟩ := rfl
  simp only [nameFor, Declaration.generatedName, Declaration.simpleName, top,
    QualifiedName.sibling, QualifiedName.simpleName, whole, frontedName]

/-- A name that stands for itself is the name of the enum. -/
theorem name_eq_frontedName (spelled : SpelledOut source model) {name : String}
    (read : Reader.name (nameFor source model).simpleName = some name) :
    name = frontedName source model := by
  have whole : splitName (frontedName source model).toList = none :=
    splitName_eq_none_iff.2 spelled.joined
  have simple : (nameFor source model).simpleName = frontedName source model := by
    rw [nameFor_eq spelled.joined, QualifiedName.simpleName, whole]
  rw [simple] at read
  exact eq_of_reads_name spelled.solid read

theorem generated_names_read {x : Expanded} (h : expand models (.enumeration source) = .ok x) :
    List.Forall₂ (fun m e => Reader.name (nameFor source m).simpleName = some e.name)
      (firstOccurrences models) x.generated := by
  refine (rendered_of_expand h).1.imp fun m e made => ?_
  have simple : (settings.realize (requested models source) m.toBinding).simpleName =
      (nameFor source m).simpleName :=
    congrArg QualifiedName.simpleName (generatedName_requested m.toBinding)
  rw [← simple]
  exact name_of_enumOf made

theorem generated_names_eq {x : Expanded} (h : expand models (.enumeration source) = .ok x)
    (spelled : ∀ m ∈ models, SpelledOut source m) :
    x.generated.map EnumItem.name = (firstOccurrences models).map (frontedName source) := by
  have members : ∀ m ∈ firstOccurrences models, SpelledOut source m :=
    fun m hm => spelled m (mem_firstOccurrences.1 hm)
  have named : List.Forall₂ (fun m e => e.name = frontedName source m)
      (firstOccurrences models) x.generated := by
    refine ((List.forall₂_and_left _ _).2 ⟨members, generated_names_read h⟩).imp ?_
    rintro m e ⟨spelled, read⟩
    exact name_eq_frontedName spelled read
  rw [← List.forall₂_eq_eq_eq, List.forall₂_map_left_iff, List.forall₂_map_right_iff]
  exact named.flip

/-- **Names of enums.** The name of a generated enum is read from the simple name generated for its
model. If the names of all models stand for themselves, the enums are named by model and source, no
two have the same name, and none has that of the source. -/
theorem identifiers_distinct {x : Expanded} (h : expand models (.enumeration source) = .ok x) :
    List.Forall₂ (fun m e => Reader.name (nameFor source m).simpleName = some e.name)
      (firstOccurrences models) x.generated ∧
    ((∀ m ∈ models, SpelledOut source m) →
      x.generated.map EnumItem.name = (firstOccurrences models).map (frontedName source) ∧
      (x.generated.map EnumItem.name).Nodup ∧ source.name ∉ x.generated.map EnumItem.name) := by
  refine ⟨generated_names_read h, fun spelled => ?_⟩
  rw [generated_names_eq h spelled]
  have fronted : ∀ m ∈ firstOccurrences models, ∀ m' ∈ firstOccurrences models,
      frontedName source m = frontedName source m' → m = m' := by
    intro m hm m' hm' same
    rw [mem_firstOccurrences] at hm hm'
    by_contra different
    refine (rendered_of_expand h).2 m hm m' hm' different ?_
    rw [nameFor_eq (spelled m hm).joined, nameFor_eq (spelled m' hm').joined, same]
  refine ⟨rfl, (firstOccurrences_nodup models).map_on fronted, fun clash => ?_⟩
  obtain ⟨m, hm, same⟩ := List.mem_map.1 clash
  have unnamed : m.toBinding.modelName = "" := String.append_eq_right_iff.1 same
  exact (spelled m (mem_firstOccurrences.1 hm)).named unnamed

theorem outcomeEnum_named :
    ∃ x, expand wordModels (.enumeration outcomeEnum) = .ok x ∧
      x.generated.map EnumItem.name = ["StringOutcome", "RawOutcome"] ∧
      (x.generated.map EnumItem.name).Nodup ∧ "Outcome" ∉ x.generated.map EnumItem.name := by
  obtain ⟨x, expanded, -, -⟩ := outcomeEnum_specializes
  have spelled : ∀ m ∈ wordModels, SpelledOut outcomeEnum m := by decide +kernel
  obtain ⟨names, distinct, other⟩ := (identifiers_distinct expanded).2 spelled
  exact ⟨x, expanded, names.trans (by decide +kernel), distinct, other⟩

/-- An enum of the payload. -/
def payloadEnum : EnumItem where
  attributes := []
  visibility := .inherited
  name := "E"
  generic := false
  parameters := []
  variants :=
    [{ attributes := []
       name := "A"
       fields := .unnamed
        [{ attributes := [], visibility := .inherited, name := none
           type := .path false [.plain "Extensive"] }] false
       discriminant := none }]
  trailing := false

/-- Two versions of one name, and a third without a name. -/
def versionedModels : List ModelRequest :=
  [{ type := { path := ⟨"String"⟩ }, name := "v1.x" },
   { type := { path := ⟨"u8"⟩ }, name := "v2.x" },
   { type := { path := ⟨"u16"⟩ }, name := "v3." }]

theorem versionedModels_coincide :
    ∃ x, expand versionedModels (.enumeration payloadEnum) = .ok x ∧
      x.generated.map EnumItem.name = ["xE", "xE", payloadEnum.name] := by
  refine exists_expand (List.map EnumItem.name) rfl (by decide) ?_ (by decide +kernel)
    (by decide +kernel)
  simp only [← TypeRef.nestsPlaceholder_iff]
  decide

end Concretize.Expansion
