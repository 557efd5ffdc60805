import Concretize.Proofs.Rereading

/-!
# What an expansion accepts

An expansion can fail at many places: where the item is turned into a declaration, in the pass over
it, and where each result is written as code. `Accepts` says in terms of the item and the models
alone when none of these fails.

* `process_requested_iff`: what the pass asks of the variants and of the generated names.
* `exists_enumOf_iff`: what writing an enum asks beyond that, a name that code can have.
* `expand_decides`: an expansion succeeds exactly on what is accepted, provided that attributes and
  types can be read back as they are written.
-/
namespace Concretize.Expansion

open Code

variable {source : EnumItem} {models : List ModelRequest} {model : ModelRequest}

/-! ## What is accepted -/

/-- The name generated for a model. -/
def nameFor (source : EnumItem) (model : ModelRequest) : QualifiedName :=
  (enumDeclaration source).generatedName model.toBinding

/-- An enum can be specialized for models: no variant is a mere number, the payload is nested
nowhere, and the models give it names that are different and that code can have. -/
structure Fits [Reader] (models : List ModelRequest) (source : EnumItem) : Prop where
  unnumbered : ∀ v ∈ source.variants, v.discriminant = none
  flat : ∀ v ∈ source.variants, ∀ f ∈ v.fields.list, ¬ f.type.toRef.Nests
  distinct : ∀ m ∈ models, ∀ m' ∈ models, m ≠ m' → nameFor source m ≠ nameFor source m'
  named : ∀ m ∈ models, (Reader.name (nameFor source m).simpleName).isSome

/-- An item that is accepted: an enum without generic parameters and conditions, which fits the
models if there are any. -/
inductive Accepts [Reader] (models : List ModelRequest) : Item → Prop where
  | enumeration {source : EnumItem} (simple : source.generic = false)
      (fits : models = [] ∨ Fits models source) : Accepts models (.enumeration source)

/-! ## The pass -/

theorem isClosed_requested : (requested models source).IsClosed := by
  obtain ⟨all, declared, -⟩ := requested_eq models source
  rw [declared]
  exact ⟨.inl rfl, List.mem_cons_self⟩

theorem generatedName_requested (b : Binding) :
    (requested models source).generatedName b = (enumDeclaration source).generatedName b := by
  obtain ⟨all, declared, -⟩ := requested_eq models source
  rw [declared]
  rfl

theorem markers_requested :
    (requested models source).markers = source.attributes.map markerOf := by
  obtain ⟨all, declared, -⟩ := requested_eq models source
  rw [declared]
  rfl

theorem mem_bindings_requested {b : Binding} :
    b ∈ (requested models source).bindings ↔ ∃ m ∈ models, m.toBinding = b := by
  rw [bindings_requested, List.mem_map]
  simp only [mem_firstOccurrences]

theorem bindings_requested_eq_nil_iff : (requested models source).bindings = [] ↔ models = [] := by
  rw [List.eq_nil_iff_forall_not_mem, List.eq_nil_iff_forall_not_mem]
  simp only [mem_bindings_requested]
  exact ⟨fun h m hm => h _ ⟨m, hm, rfl⟩, fun h b ⟨m, hm, _⟩ => h m hm⟩

/-- No name is generated for two models. -/
theorem namesPass_requested_iff :
    settings.NamesPass (requested models source) ↔
      ∀ m ∈ models, ∀ m' ∈ models, m ≠ m' → nameFor source m ≠ nameFor source m' := by
  have rejects : settings.collisions ≠ .allow := by decide
  simp only [Settings.NamesPass, rejects, false_or, Declaration.Collides, generatedName_requested,
    mem_bindings_requested]
  constructor
  · intro apart m hm m' hm' different same
    have bindings_differ : m.toBinding ≠ m'.toBinding := toBinding_injective.ne different
    exact apart _ ⟨_, ⟨m, hm, rfl⟩, _, ⟨m', hm', rfl⟩, bindings_differ, same, rfl⟩
  · rintro distinct n ⟨_, ⟨m, hm, rfl⟩, _, ⟨m', hm', rfl⟩, different, named, named'⟩
    have models_differ : m ≠ m' := fun same => different (congrArg _ same)
    exact distinct m hm m' hm' models_differ (named.trans named'.symm)

/-- Without a number, a variant is a singleton without parameters or a class. -/
theorem kind_of_unnumbered {v : EnumVariant} (h : v.discriminant = none) :
    (kindOf v = .object ∧ v.fields.list = []) ∨ kindOf v = .klass := by
  unfold kindOf
  rw [h]
  cases v.fields with
  | unit => exact .inl ⟨rfl, rfl⟩
  | unnamed fields trailing => exact .inr rfl
  | named fields trailing => exact .inr rfl

/-- A variant is faulty if it has a number, or if a field of it nests the payload. -/
theorem sound_variantOf_iff {d : Declaration} {v : EnumVariant} :
    (∀ e, ¬ (variantOf v).Faulty d .reject e) ↔
      v.discriminant = none ∧ ∀ f ∈ v.fields.list, ¬ f.type.toRef.Nests := by
  constructor
  · intro sound
    refine ⟨?_, fun f hf => ?_⟩
    · by_contra numbered
      have entry : (variantOf v).kind = .enumEntry := kindOf_eq_enumEntry.2 numbered
      exact sound _ (.wrongKind (by simp [entry]))
    · exact not_nests_of_not_faulty (p := parameterOf f) sound (List.mem_map_of_mem hf)
  · rintro ⟨unnumbered, flat⟩ e fault
    cases fault with
    | wrongKind h =>
      rcases kind_of_unnumbered unnumbered with ⟨object, -⟩ | klass
      · exact h.2.2 object
      · exact h.1 klass
    | withParameters h hp =>
      rcases kind_of_unnumbered unnumbered with ⟨-, empty⟩ | klass
      · exact hp (by simp [variantOf, empty])
      · have kind : (variantOf v).kind = .klass := klass
        simp [kind] at h
    | refused h hp =>
      obtain ⟨q, hq, -, nests⟩ := exists_first_iff.1 ⟨_, _, hp⟩
      obtain ⟨f, hf, rfl⟩ := List.mem_map.1 hq
      exact flat f hf nests

/-- The pass generates from an enum if there are models, all variants are sound and no name is
generated twice. -/
theorem process_requested_iff {g : Generation} :
    settings.process (requested models source) = .generated g ↔
      models ≠ [] ∧
      (∀ v ∈ source.variants, v.discriminant = none ∧
        ∀ f ∈ v.fields.list, ¬ f.type.toRef.Nests) ∧
      (∀ m ∈ models, ∀ m' ∈ models, m ≠ m' → nameFor source m ≠ nameFor source m') ∧
      g = settings.generation (requested models source) := by
  have nested : settings.nested = .reject := rfl
  have sound : (¬ ∃ e, (requested models source).FirstFault settings.nested e) ↔
      ∀ v ∈ source.variants, v.discriminant = none ∧
        ∀ f ∈ v.fields.list, ¬ f.type.toRef.Nests := by
    rw [Declaration.exists_firstFault_iff, variants_requested, nested]
    simp only [← sound_variantOf_iff (d := requested models source), List.mem_map, not_exists,
      not_and, forall_exists_index, and_imp, forall_apply_eq_imp_iff₂]
  rw [process_eq_generated_iff, sound, namesPass_requested_iff, ne_eq,
    bindings_requested_eq_nil_iff]
  constructor
  · rintro ⟨-, asked, distinct, variants, made⟩
    exact ⟨asked, variants, distinct, made⟩
  · rintro ⟨asked, variants, distinct, made⟩
    exact ⟨isClosed_requested, asked, distinct, variants, made⟩

/-! ## Writing an enum -/

section Success
variable {α β ε : Type}

theorem exists_bind_eq_ok {x : Except ε α} {f : α → Except ε β} (hx : ∃ a, x = .ok a)
    (hf : ∀ a, ∃ b, f a = .ok b) : ∃ b, (x >>= f) = .ok b := by
  obtain ⟨a, rfl⟩ := hx
  exact hf a

theorem exists_mapM_eq_ok_iff {f : α → Except ε β} {l : List α} :
    (∃ bs, l.mapM f = .ok bs) ↔ ∀ a ∈ l, ∃ b, f a = .ok b := by
  simp only [mapM_eq_ok_iff_forall₂]
  induction l with
  | nil => simp
  | cons a l ih =>
    rw [List.forall_mem_cons, ← ih]
    constructor
    · rintro ⟨_, _ | ⟨first, rest⟩⟩
      exact ⟨⟨_, first⟩, _, rest⟩
    · rintro ⟨⟨b, first⟩, bs, rest⟩
      exact ⟨b :: bs, .cons first rest⟩

end Success

section Writing
variable [Reader]

theorem exists_attributesOf {markers : List Marker} (h : ∀ m ∈ markers, LegibleMarker m) :
    ∃ attributes, attributesOf markers = .ok attributes := by
  refine exists_bind_eq_ok (exists_mapM_eq_ok_iff.2 fun m hm => ?_) fun _ => ⟨_, rfl⟩
  obtain ⟨all, read⟩ := Option.isSome_iff_exists.1 (h m hm)
  exact ⟨all, by rw [read]; rfl⟩

theorem exists_formOf {t : TypeRef} (h : Legible t) : ∃ form, formOf t = .ok form := by
  obtain ⟨form, read⟩ := Option.isSome_iff_exists.1 h
  exact ⟨form, by rw [formOf, read]; rfl⟩

/-- A specialized field can be written: if its type was replaced, it is that of the model. -/
theorem exists_fieldOf {f : Field} (markers : ∀ a ∈ f.attributes, LegibleMarker (markerOf a))
    (type : Legible model.type.toRef) :
    ∃ g, fieldOf f ((parameterOf f).fill model.toBinding) = .ok g := by
  have annotated : ∀ m ∈ f.attributes.map markerOf, LegibleMarker m := List.forall_mem_map.2 markers
  refine exists_bind_eq_ok (exists_attributesOf annotated) fun _ => ?_
  split
  · exact ⟨_, rfl⟩
  · next replaced =>
    refine exists_bind_eq_ok ?_ fun _ => ⟨_, rfl⟩
    by_cases payload : f.type.toRef = .placeholder
    · have filled : ((parameterOf f).fill model.toBinding).type = model.type.toRef := by
        simp [Parameter.fill, parameterOf, payload, TypeRef.fill, ModelRequest.toBinding]
      rw [filled]
      exact exists_formOf type
    · exact absurd (fill_of_ne payload) replaced

theorem exists_fieldsOf {fs : Fields}
    (markers : ∀ f ∈ fs.list, ∀ a ∈ f.attributes, LegibleMarker (markerOf a))
    (type : Legible model.type.toRef) :
    ∃ gs, fieldsOf fs ((fs.list.map parameterOf).map (Parameter.fill model.toBinding)) = .ok gs := by
  refine exists_bind_eq_ok ?_ fun _ => ⟨_, rfl⟩
  rw [List.map_map, ← List.map_prod_left_eq_zip]
  refine exists_mapM_eq_ok_iff.2 fun pair hp => ?_
  obtain ⟨f, hf, rfl⟩ := List.mem_map.1 hp
  exact exists_fieldOf (markers f hf) type

theorem exists_enumVariantOf {v : EnumVariant}
    (markers : ∀ a ∈ v.attributes, LegibleMarker (markerOf a))
    (fields : ∀ f ∈ v.fields.list, ∀ a ∈ f.attributes, LegibleMarker (markerOf a))
    (type : Legible model.type.toRef) :
    ∃ w, enumVariantOf v ((variantOf v).fill model.toBinding) = .ok w := by
  have annotated : ∀ m ∈ v.attributes.map markerOf, LegibleMarker m := List.forall_mem_map.2 markers
  exact exists_bind_eq_ok (exists_attributesOf annotated) fun _ =>
    exists_bind_eq_ok (exists_fieldsOf fields type) fun _ => ⟨_, rfl⟩

/-- The attributes of an enum, of its variants and of their fields. -/
def everyAttribute (e : EnumItem) : List Attribute :=
  e.attributes ++ e.variants.flatMap fun v => v.attributes ++ v.fields.list.flatMap Field.attributes

/-- With legible annotations and a legible model, an enum can be written if the generated name is
one that code can have. -/
theorem exists_enumOf_iff (markers : ∀ a ∈ everyAttribute source, LegibleMarker (markerOf a))
    (type : Legible model.type.toRef) :
    (∃ e, enumOf source (settings.realize (requested models source) model.toBinding) = .ok e) ↔
      (Reader.name (nameFor source model).simpleName).isSome := by
  have simple : (settings.realize (requested models source) model.toBinding).simpleName =
      (nameFor source model).simpleName :=
    congrArg QualifiedName.simpleName (generatedName_requested model.toBinding)
  unfold enumOf
  rw [simple]
  cases named : Reader.name (nameFor source model).simpleName with
  | none => simp [throw, throwThe, MonadExceptOf.throw]
  | some name =>
    simp only [Option.isSome_some, iff_true]
    have kept : ∀ m ∈ (settings.realize (requested models source) model.toBinding).markers,
        LegibleMarker m := by
      intro m hm
      have inherited := List.mem_of_mem_filter hm
      rw [markers_requested] at inherited
      obtain ⟨a, ha, rfl⟩ := List.mem_map.1 inherited
      exact markers a (List.mem_append_left _ ha)
    refine exists_bind_eq_ok (exists_attributesOf kept) fun _ =>
      exists_bind_eq_ok ?_ fun _ => ⟨_, rfl⟩
    simp only [Settings.realize, Declaration.instantiate, variants_requested, List.map_map]
    rw [← List.map_prod_left_eq_zip]
    refine exists_mapM_eq_ok_iff.2 fun pair hp => ?_
    obtain ⟨v, hv, rfl⟩ := List.mem_map.1 hp
    have below {a : Attribute}
        (ha : a ∈ v.attributes ++ v.fields.list.flatMap Field.attributes) :
        LegibleMarker (markerOf a) :=
      markers a (List.mem_append_right _ (List.mem_flatMap.2 ⟨v, hv, ha⟩))
    refine exists_enumVariantOf (fun a ha => below (List.mem_append_left _ ha)) ?_ type
    intro f hf a ha
    exact below (List.mem_append_right _ (List.mem_flatMap.2 ⟨f, hf, ha⟩))

/-! ## The whole expansion -/

theorem expand_of_ne_enumeration {item : Item} (h : ∀ source, item ≠ .enumeration source) :
    ∃ e, expand models item = .error e := by
  cases item with
  | enumeration source => exact absurd rfl (h source)
  | extensible kind visibility name =>
    -- Whether the pass reports an error or not, there is no enum to write.
    unfold expand
    simp only [declarationOf, pure_bind]
    split
    · exact ⟨_, rfl⟩
    · exact ⟨_, rfl⟩
  | other => exact ⟨.notEnum, rfl⟩

theorem expand_of_generic (h : source.generic = true) :
    expand models (.enumeration source) = .error .genericEnum := by
  simp only [expand, declarationOf, h, if_true]
  rfl

/-- After the pass, only the names of the results can be wrong. -/
theorem exists_hierarchies_iff (markers : ∀ a ∈ everyAttribute source, LegibleMarker (markerOf a))
    (types : ∀ m ∈ models, Legible m.type.toRef) :
    (∃ enums, (settings.generation (requested models source)).hierarchies.mapM (enumOf source) =
        .ok enums) ↔
      ∀ m ∈ models, (Reader.name (nameFor source m).simpleName).isSome := by
  rw [exists_mapM_eq_ok_iff, Settings.generation, bindings_requested, List.map_map]
  simp only [List.forall_mem_map, mem_firstOccurrences, Function.comp_apply]
  exact forall₂_congr fun m hm => exists_enumOf_iff markers (types m hm)

theorem expand_enumeration_iff (markers : ∀ a ∈ everyAttribute source, LegibleMarker (markerOf a))
    (types : ∀ m ∈ models, Legible m.type.toRef) (simple : source.generic = false) :
    (∃ x, expand models (.enumeration source) = .ok x) ↔ models = [] ∨ Fits models source := by
  rw [expand_enumeration simple]
  by_cases none : models = []
  · have skipped : settings.process (requested models source) = .skipped :=
      process_of_bindings_eq_nil isClosed_requested (bindings_requested_eq_nil_iff.2 none)
    rw [skipped]
    exact iff_of_true ⟨_, rfl⟩ (.inl none)
  cases outcome : settings.process (requested models source) with
  | skipped =>
    obtain ⟨-, unbound⟩ := process_eq_skipped_iff.1 outcome
    exact absurd (bindings_requested_eq_nil_iff.1 unbound) none
  | failed e =>
    refine iff_of_false nofun ?_
    rintro (asked_none | fits)
    · exact none asked_none
    · have sound := fun v hv => And.intro (fits.unnumbered v hv) (fits.flat v hv)
      have generated := process_requested_iff.2 ⟨none, sound, fits.distinct, rfl⟩
      rw [outcome] at generated
      cases generated
  | generated g =>
    obtain ⟨-, sound, distinct, rfl⟩ := process_requested_iff.1 outcome
    have written := exists_hierarchies_iff markers types
    simp only [bind_eq_ok_iff]
    constructor
    · rintro ⟨x, enums, rendered, -⟩
      have named := written.1 ⟨enums, rendered⟩
      exact .inr ⟨fun v hv => (sound v hv).1, fun v hv => (sound v hv).2, distinct, named⟩
    · rintro (asked_none | fits)
      · exact absurd asked_none none
      · obtain ⟨enums, rendered⟩ := written.2 fits.named
        exact ⟨_, enums, rendered, rfl⟩

/-- Every enum is written from the hierarchy of its model, and no name is generated for two models.
-/
theorem rendered_of_expand {x : Expanded}
    (h : expand models (.enumeration source) = .ok x) :
    List.Forall₂
      (fun m e => enumOf source (settings.realize (requested models source) m.toBinding) = .ok e)
      (firstOccurrences models) x.generated ∧
    ∀ m ∈ models, ∀ m' ∈ models, m ≠ m' → nameFor source m ≠ nameFor source m' := by
  have simple : source.generic = false := by
    by_contra generic
    rw [expand_of_generic (Bool.not_eq_false _ ▸ generic)] at h
    cases h
  rw [expand_enumeration simple] at h
  cases outcome : settings.process (requested models source) with
  | skipped =>
    rw [outcome] at h
    cases h
    obtain ⟨-, unbound⟩ := process_eq_skipped_iff.1 outcome
    rw [bindings_requested_eq_nil_iff.1 unbound]
    exact ⟨.nil, nofun⟩
  | failed e =>
    rw [outcome] at h
    cases h
  | generated g =>
    rw [outcome] at h
    obtain ⟨enums, written, made⟩ := bind_eq_ok_iff.1 h
    cases made
    obtain ⟨-, -, distinct, rfl⟩ := process_requested_iff.1 outcome
    rw [Settings.generation, bindings_requested, List.map_map, mapM_eq_ok_iff_forall₂,
      List.forall₂_map_left_iff] at written
    exact ⟨written, distinct⟩

/-- What is made of the enums of an expansion, if nothing stands in its way. -/
theorem exists_expand {β : Type} {b : β} (f : List EnumItem → β) (simple : source.generic = false)
    (asked : models ≠ [])
    (sound : ∀ v ∈ source.variants, v.discriminant = none ∧
      ∀ f ∈ v.fields.list, ¬ f.type.toRef.Nests)
    (distinct : ∀ m ∈ models, ∀ m' ∈ models, m ≠ m' → nameFor source m ≠ nameFor source m')
    (made : ((settings.generation (requested models source)).hierarchies.mapM
      (enumOf source)).map f = .ok b) :
    ∃ x, expand models (.enumeration source) = .ok x ∧ f x.generated = b := by
  have outcome := process_requested_iff.2 ⟨asked, sound, distinct, rfl⟩
  rw [expand_enumeration simple, outcome]
  cases rendered : (settings.generation (requested models source)).hierarchies.mapM
      (enumOf source) with
  | error e =>
    rw [rendered] at made
    cases made
  | ok enums =>
    rw [rendered] at made
    cases made
    exact ⟨_, congrArg (· >>= _) rendered, rfl⟩

/-- The attributes of an item came out of texts. -/
def AttributesFromText : Item → Prop
  | .enumeration source => ∀ a ∈ everyAttribute source, Attribute.FromText a
  | _ => True

/-- The type of a model came out of a text and does not mention the placeholder. -/
def ModelFromText (m : ModelRequest) : Prop :=
  ∃ t, TypeForm.FromText t ∧ t.code.mentions placeholderWord = false ∧ m.type = t.toName

/-- **Acceptance.** Where attributes and types came out of texts, an item that is accepted expands,
and any other item is an error. -/
theorem expand_decides (reads : Reader.Rereads) {item : Item} (written : AttributesFromText item)
    (asked : ∀ m ∈ models, ModelFromText m) :
    (Accepts models item → ∃ x, expand models item = .ok x) ∧
      (¬ Accepts models item → ∃ e, expand models item = .error e) := by
  have types : ∀ m ∈ models, Legible m.type.toRef := by
    intro m hm
    obtain ⟨t, given, plain, typed⟩ := asked m hm
    rw [typed]
    exact reads_toName reads t given plain
  have decides : (∃ x, expand models item = .ok x) ↔ Accepts models item := by
    cases item with
    | enumeration source =>
      have markers : ∀ a ∈ everyAttribute source, LegibleMarker (markerOf a) :=
        fun a ha => legible_markerOf reads (written a ha)
      cases simple : source.generic with
      | false =>
        rw [expand_enumeration_iff markers types simple]
        exact ⟨.enumeration simple, fun | .enumeration _ fits => fits⟩
      | true =>
        rw [expand_of_generic simple]
        refine iff_of_false nofun ?_
        rintro ⟨plain, -⟩
        rw [simple] at plain
        cases plain
    | extensible kind visibility name =>
      obtain ⟨e, failed⟩ : ∃ e, expand models (.extensible kind visibility name) = .error e :=
        expand_of_ne_enumeration nofun
      rw [failed]
      exact iff_of_false nofun nofun
    | other =>
      obtain ⟨e, failed⟩ : ∃ e, expand models .other = .error e := expand_of_ne_enumeration nofun
      rw [failed]
      exact iff_of_false nofun nofun
  refine ⟨decides.2, fun refused => ?_⟩
  cases result : expand models item with
  | ok x => exact absurd (decides.1 ⟨x, result⟩) refused
  | error e => exact ⟨e, rfl⟩

end Writing

/-- The attribute of the example. -/
def derived : Attribute where
  path := { names := ["derive"] }
  form := .list .round [.word "Debug"]

/-- The types of the example by their texts. -/
def exampleTypes : List (String × TypeForm) :=
  let byte : TypeForm := .path false [.plain "u8"]
  let bytes : TypeForm := .path false [.applied "Vec" false [.type byte] false]
  [("String", .path false [.plain "String"]), ("u8", byte), ("Vec<u8>", bytes),
    ("Vec < u8 >", bytes)]

/-- A reader of the texts of the example, which the grammar of code reads in the same way. -/
@[reducible]
def exampleReader : Reader where
  attributes text := if text = "#[derive(Debug)]" then some [derived] else none
  type text := exampleTypes.lookup text
  typeBegins text := exampleTypes.lookup text
  name text := if text = "StringOutcome" ∨ text = "RawOutcome" then some text else none

theorem mem_of_lookup {α β : Type} [BEq α] [LawfulBEq α] {l : List (α × β)} {a : α} {b : β}
    (h : l.lookup a = some b) : (a, b) ∈ l := by
  obtain ⟨front, back, rfl, -⟩ := List.lookup_eq_some_iff.1 h
  simp

/-- The enum of the example: one that derives something. -/
def derivedEnum : EnumItem := { outcomeEnum with attributes := [derived] }

theorem exampleReader_types {t : TypeForm} (h : @TypeForm.FromText exampleReader t) :
    t = .path false [.plain "String"] ∨ t = .path false [.plain "u8"] ∨
      t = .path false [.applied "Vec" false [.type (.path false [.plain "u8"])] false] := by
  induction h with
  | @whole text t read =>
    have known : (text, t) ∈ exampleTypes := mem_of_lookup read
    simp only [exampleTypes, List.mem_cons, Prod.mk.injEq, List.not_mem_nil, or_false] at known
    tauto
  | inner _ ih => rcases ih with same | same | same <;> cases same
  | argument _ hs ht ih =>
    rcases ih with same | same | same <;> cases same <;> cases List.mem_singleton.1 hs
    · cases ht
    · cases ht
    · cases List.mem_singleton.1 ht
      exact .inr (.inl rfl)

theorem exampleReader_rereads : @Reader.Rereads exampleReader := by
  refine @Reader.Rereads.mk exampleReader (fun ⟨text, all, read, ha⟩ => ?_) (fun h => ?_)
    (fun h taken _ => ?_)
  · change (if text = "#[derive(Debug)]" then some [derived] else none) = some all at read
    split at read
    · cases read
      cases List.mem_singleton.1 ha
      rfl
    · cases read
  · rcases exampleReader_types h with rfl | rfl | rfl <;> rfl
  · rcases exampleReader_types h with same | same | same <;> cases same <;> cases taken <;> rfl

theorem derivedEnum_decided :
    (∃ x, @expand exampleReader wordModels (.enumeration derivedEnum) = .ok x) ∧
      ∃ e, @expand exampleReader wordModels .other = .error e := by
  let _ : Reader := exampleReader
  have asked : ∀ m ∈ wordModels, ModelFromText m := by
    have text : ModelFromText { type := { path := ⟨"String"⟩ } } :=
      ⟨.path false [.plain "String"], .whole (show Reader.type "String" = _ from rfl), rfl, rfl⟩
    have bytes : ModelFromText
        { name := "raw", type := { path := ⟨"Vec"⟩, arguments := [.concrete ⟨"u8"⟩ [] false] } } :=
      ⟨.path false [.applied "Vec" false [.type (.path false [.plain "u8"])] false],
        .whole (show Reader.type "Vec<u8>" = _ from rfl), rfl, rfl⟩
    simp only [wordModels, List.forall_mem_cons]
    exact ⟨text, bytes, text, nofun⟩
  have written : AttributesFromText (.enumeration derivedEnum) := by
    intro a ha
    cases List.mem_singleton.1 (show a ∈ [derived] from ha)
    exact ⟨"#[derive(Debug)]", [derived], rfl, List.mem_singleton_self _⟩
  have fits : Fits wordModels derivedEnum := by
    refine ⟨by decide, ?_, ?_, ?_⟩
    · simp only [← TypeRef.nestsPlaceholder_iff]
      decide
    · decide +kernel
    · decide +kernel
  have other : AttributesFromText .other := trivial
  exact ⟨(expand_decides exampleReader_rereads written asked).1 (.enumeration rfl (.inr fits)),
    (expand_decides exampleReader_rereads other asked).2 nofun⟩

end Concretize.Expansion
