import Concretize.Proofs.AttributeText
import Concretize.Proofs.Identifiers

/-!
# Attributes of generated enums

The attributes of an enum and of its parts pass through their texts, so that they reappear with
parentheses around their tokens, except the one that asks for specialization.

* `answersTo_trigger_iff`: which attribute asks for specialization.
* `attributes_rounded`: the attributes of a generated enum are those of the source, rounded.
* `bracketedEnum_changed`: attributes with other brackets, which do not reappear as they are.
-/
namespace Concretize.Expansion

open Code

variable {source : EnumItem} {models : List ModelRequest} {model : ModelRequest} {a : Attribute}

/-! ## The attribute that asks for specialization -/

/-- The path of an attribute is the word that asks for specialization, or ends in it. -/
def IsTrigger (a : Attribute) : Prop := a.path.names.getLast? = some trigger

instance : DecidablePred IsTrigger := fun _ => inferInstanceAs (Decidable (_ = _))

theorem plain_of_isWord {text : List Char} (h : Lexing.IsWord text) :
    ∀ c ∈ text, c ≠ '.' ∧ c ≠ ':' := by
  have plain {name : List Char} (h : Lexing.IsName name) : ∀ c ∈ name, c ≠ '.' ∧ c ≠ ':' := by
    intro c hc
    have continues := h.continues c hc
    constructor <;> rintro rfl <;> exact absurd continues (by decide)
  cases h with
  | plain h => exact plain h
  | raw h free => simpa using plain h

/-- Behind the colons of a path, a word stands for itself. -/
theorem precedes_of_isWord {text : List Char} (h : Lexing.IsWord text) :
    Separator.colons.Precedes text := by
  have plain := plain_of_isWord h
  refine ⟨?_, fun _ colon => (plain _ (List.mem_of_mem_head? colon)).2 rfl⟩
  rintro (dot | ⟨front, behind, rfl⟩)
  · exact (plain _ dot).1 rfl
  · exact (plain ':' (by simp)).2 rfl

theorem intercalate_last : {names : List String} → names ≠ [] →
    ∃ last, names.getLast? = some last ∧
      ("::".intercalate names = last ∨ ∃ front, "::".intercalate names = front ++ "::" ++ last)
  | [n], _ => ⟨n, rfl, .inl String.intercalate_singleton⟩
  | n :: m :: more, _ => by
    obtain ⟨last, ends, same | ⟨front, same⟩⟩ := intercalate_last (List.cons_ne_nil m more)
    · refine ⟨last, ends, .inr ⟨n, ?_⟩⟩
      rw [String.intercalate_cons_cons, same]
    · refine ⟨last, ends, .inr ⟨n ++ "::" ++ front, ?_⟩⟩
      rw [String.intercalate_cons_cons, same]
      simp [String.append_assoc]

/-- The simple name of a path is its last name. -/
theorem simpleName_text {p : ModPath} (h : p.Sound) :
    p.names.getLast? = some (QualifiedName.simpleName ⟨p.text⟩) := by
  obtain ⟨last, ends, shape⟩ := intercalate_last h.filled
  have precedes := precedes_of_isWord (h.words last (List.mem_of_getLast? ends))
  have shape : p.text = last ∨ ∃ front, p.text = front ++ "::" ++ last := by
    cases leading : p.leading with
    | false => simpa [ModPath.text, leading] using shape
    | true =>
      rw [ModPath.text, leading, if_pos rfl]
      rcases shape with same | ⟨front, same⟩
      · exact .inr ⟨"", by rw [same]; rfl⟩
      · exact .inr ⟨"::" ++ front, by simp [same, String.append_assoc]⟩
  rw [ends, QualifiedName.simpleName]
  rcases shape with same | ⟨front, same⟩
  · rw [same, splitName_eq_none_iff.2 precedes.1]
  · have split : splitName p.text.toList = some ⟨front.toList, .colons, last.toList⟩ := by
      rw [same, String.toList_append, String.toList_append]
      exact splitName_append_iff.2 precedes
    rw [split]
    simp

theorem answersTo_trigger_iff (h : a.path.Sound) :
    (markerOf a).name.answersTo trigger ↔ IsTrigger a := by
  have whole : QualifiedName.simpleName ⟨trigger⟩ = trigger := by decide
  have last := simpleName_text h
  rw [IsTrigger, last, Option.some_inj, markerOf, QualifiedName.answersTo, Bool.or_eq_true,
    beq_iff_eq, beq_iff_eq]
  refine ⟨?_, .inr⟩
  rintro (same | same)
  · have text : a.path.text = trigger := same
    rw [text, whole]
  · exact same

/-! ## Attributes of an expansion -/

/-- The attributes of an enum that do not ask for specialization. -/
def keptAttributes (e : EnumItem) : List Attribute := e.attributes.filter (¬ IsTrigger ·)

/-- The attributes of a variant and of its fields, changed in one way. -/
structure VariantAttributesFollow (change : Attribute → Attribute) (v w : EnumVariant) : Prop where
  variant : w.attributes = v.attributes.map change
  fields : List.Forall₂ (fun f g => g.attributes = f.attributes.map change) v.fields.list
    w.fields.list

/-- The attributes of an enum, changed in one way, stand in order behind its documentation. So do
those of its variants and their fields, which have no documentation. -/
structure AttributesFollow (change : Attribute → Attribute) (source e : EnumItem) : Prop where
  enum : ∃ doc, e.attributes = doc :: (keptAttributes source).map change
  variants : List.Forall₂ (VariantAttributesFollow change) source.variants e.variants

theorem attributesOf_map {attributes : List Attribute} (sound : ∀ a ∈ attributes, a.Sound) :
    attributesOf (attributes.map markerOf) = .ok (attributes.map Attribute.rounded) := by
  have read : ∀ a ∈ attributes, Reader.attributes (markerText (markerOf a)) = some [a.rounded] := by
    intro a ha
    rw [markerText_markerOf]
    exact reads_written (sound a ha)
  refine bind_eq_ok_iff.2 ⟨attributes.map fun a => [a.rounded], ?_, ?_⟩
  · rw [mapM_eq_ok_iff_forall₂, List.forall₂_map_left_iff, List.forall₂_map_right_iff,
      List.forall₂_same]
    intro a ha
    rw [read a ha]
    rfl
  · rw [← List.flatMap_def, ← List.map_eq_flatMap]
    rfl

theorem attributes_of_fieldOf {f g : Field} (sound : ∀ a ∈ f.attributes, a.Sound)
    (h : fieldOf f ((parameterOf f).fill model.toBinding) = .ok g) :
    g.attributes = f.attributes.map Attribute.rounded := by
  obtain ⟨attributes, type, read, -, rfl⟩ := fieldOf_eq_ok_iff.1 h
  have same : attributesOf (f.attributes.map markerOf) = .ok attributes := read
  rw [attributesOf_map sound] at same
  cases same
  rfl

theorem attributes_of_fieldsOf {fs gs : Fields}
    (sound : ∀ f ∈ fs.list, ∀ a ∈ f.attributes, a.Sound)
    (h : fieldsOf fs ((fs.list.map parameterOf).map (Parameter.fill model.toBinding)) = .ok gs) :
    List.Forall₂ (fun f g => g.attributes = f.attributes.map Attribute.rounded) fs.list
      gs.list := by
  simp only [fieldsOf, bind_eq_ok_iff, pure, Except.pure, Except.ok.injEq] at h
  obtain ⟨fields, walked, rfl⟩ := h
  rw [List.map_map] at walked
  have follow : List.Forall₂ (fun f g => g.attributes = f.attributes.map Attribute.rounded)
      fs.list fields := by
    refine ((List.forall₂_and_left _ _).2 ⟨sound, forall₂_of_mapM_zip walked⟩).imp ?_
    rintro f g ⟨sound, made⟩
    exact attributes_of_fieldOf sound made
  cases fs with
  | unit => exact .nil
  | unnamed fs comma => exact follow
  | named fs comma => exact follow

theorem attributes_of_enumVariantOf {v w : EnumVariant} (variant : ∀ a ∈ v.attributes, a.Sound)
    (fields : ∀ f ∈ v.fields.list, ∀ a ∈ f.attributes, a.Sound)
    (h : enumVariantOf v ((variantOf v).fill model.toBinding) = .ok w) :
    VariantAttributesFollow Attribute.rounded v w := by
  simp only [enumVariantOf, bind_eq_ok_iff, pure, Except.pure, Except.ok.injEq] at h
  obtain ⟨attributes, read, gs, walked, rfl⟩ := h
  have same : attributesOf (v.attributes.map markerOf) = .ok attributes := read
  rw [attributesOf_map variant] at same
  cases same
  exact ⟨rfl, attributes_of_fieldsOf fields walked⟩

/-- The annotations of a hierarchy are those of the attributes that are kept. -/
theorem markers_realize (path : ∀ a ∈ source.attributes, a.path.Sound) (b : Binding) :
    (settings.realize (requested models source) b).markers =
      (keptAttributes source).map markerOf := by
  have kept : ∀ a ∈ source.attributes,
      (!(markerOf a).name.answersTo settings.trigger) = decide (¬ IsTrigger a) := by
    intro a ha
    rw [Bool.eq_iff_iff, Bool.not_eq_true', decide_eq_true_eq, ← answersTo_trigger_iff (path a ha),
      Bool.not_eq_true]
    rfl
  simp only [Settings.realize, Declaration.instantiate]
  rw [markers_requested, List.filter_map, keptAttributes]
  exact congrArg _ (List.filter_congr kept)

theorem attributes_of_enumOf (sound : ∀ a ∈ everyAttribute source, a.Sound) {e : EnumItem}
    (h : enumOf source (settings.realize (requested models source) model.toBinding) = .ok e) :
    AttributesFollow Attribute.rounded source e := by
  have own : ∀ a ∈ source.attributes, a.Sound := fun a ha => sound a (List.mem_append_left _ ha)
  unfold enumOf at h
  split at h
  · next name named =>
    simp only [bind_eq_ok_iff, pure, Except.pure, Except.ok.injEq] at h
    obtain ⟨attributes, read, rendered, walked, rfl⟩ := h
    have kept : ∀ a ∈ keptAttributes source, a.Sound :=
      fun a ha => own a (List.mem_of_mem_filter ha)
    rw [markers_realize fun a ha => (own a ha).path, attributesOf_map kept] at read
    cases read
    refine ⟨⟨_, rfl⟩, ?_⟩
    simp only [Settings.realize, Declaration.instantiate, variants_requested,
      List.map_map] at walked
    have each := forall₂_of_mapM_zip walked
    have below : ∀ v ∈ source.variants,
        ∀ a ∈ v.attributes ++ v.fields.list.flatMap Field.attributes, a.Sound :=
      fun v hv a ha => sound a (List.mem_append_right _ (List.mem_flatMap.2 ⟨v, hv, ha⟩))
    refine ((List.forall₂_and_left _ _).2 ⟨below, each⟩).imp ?_
    rintro v w ⟨sound, made⟩
    refine attributes_of_enumVariantOf (fun a ha => sound a (List.mem_append_left _ ha)) ?_ made
    exact fun f hf a ha =>
      sound a (List.mem_append_right _ (List.mem_flatMap.2 ⟨f, hf, ha⟩))
  · cases h

/-! ## What is kept, and what is not -/

/-- The attributes that reappear: those of the enum that are kept, and those of the variants and
their fields. -/
def carriedAttributes (e : EnumItem) : List Attribute :=
  keptAttributes e ++ e.variants.flatMap fun v =>
    v.attributes ++ v.fields.list.flatMap Field.attributes

theorem mem_everyAttribute (h : a ∈ carriedAttributes source) : a ∈ everyAttribute source := by
  rcases List.mem_append.1 h with own | below
  · exact List.mem_append_left _ (List.mem_of_mem_filter own)
  · exact List.mem_append_right _ below

theorem rounded_eq_self_iff : a.rounded = a ↔ ∀ d tokens, a.form = .list d tokens → d = .round := by
  obtain ⟨path, form⟩ := a
  cases form with
  | bare => exact iff_of_true rfl nofun
  | value expression => exact iff_of_true rfl nofun
  | list d tokens =>
    simp only [Attribute.rounded, AttributeForm.rounded, Attribute.mk.injEq,
      AttributeForm.list.injEq, true_and, and_true]
    constructor
    · rintro rfl d' tokens' ⟨rfl, -⟩
      rfl
    · exact fun round => (round d tokens ⟨rfl, rfl⟩).symm

/-- Of two relations in step, one of which a property decides where the other holds. -/
theorem forall₂_iff {α β : Type} {R S : α → β → Prop} {p : α → Prop} {l : List α} {l' : List β}
    (h : List.Forall₂ R l l') (decides : ∀ a b, R a b → (S a b ↔ p a)) :
    List.Forall₂ S l l' ↔ ∀ a ∈ l, p a := by
  induction h with
  | nil => simp
  | cons first _ ih => rw [List.forall₂_cons, ih, decides _ _ first, List.forall_mem_cons]

section Change
variable {change : Attribute → Attribute}

theorem map_change_iff {attributes : List Attribute} :
    attributes.map change = attributes.map id ↔ ∀ a ∈ attributes, change a = a :=
  List.map_inj_left

theorem variant_id_iff {v w : EnumVariant} (h : VariantAttributesFollow change v w) :
    VariantAttributesFollow id v w ↔
      ∀ a ∈ v.attributes ++ v.fields.list.flatMap Field.attributes, change a = a := by
  have fields : List.Forall₂ (fun f g => g.attributes = f.attributes.map id) v.fields.list
      w.fields.list ↔ ∀ f ∈ v.fields.list, ∀ a ∈ f.attributes, change a = a :=
    forall₂_iff h.fields fun f g changed => by rw [changed, map_change_iff]
  have variant : w.attributes = v.attributes.map id ↔ ∀ a ∈ v.attributes, change a = a := by
    rw [h.variant, map_change_iff]
  simp only [List.forall_mem_append, List.forall_mem_flatMap, ← variant, ← fields]
  exact ⟨fun same => ⟨same.variant, same.fields⟩, fun same => ⟨same.1, same.2⟩⟩

/-- If attributes reappear changed in one way, they reappear as they are exactly if the change
leaves all of them alone. -/
theorem follow_id_iff {e : EnumItem} (h : AttributesFollow change source e) :
    AttributesFollow id source e ↔ ∀ a ∈ carriedAttributes source, change a = a := by
  obtain ⟨doc, enum⟩ := h.enum
  have variants := forall₂_iff h.variants fun v w => variant_id_iff
  have own : (∃ doc, e.attributes = doc :: (keptAttributes source).map id) ↔
      ∀ a ∈ keptAttributes source, change a = a := by
    rw [← map_change_iff, enum]
    simp
  simp only [carriedAttributes, List.forall_mem_append, List.forall_mem_flatMap] at variants ⊢
  rw [← variants, ← own]
  exact ⟨fun same => ⟨same.enum, same.variants⟩, fun same => ⟨same.1, same.2⟩⟩

end Change

/-- **Attributes.** The attributes of the enum that do not ask for specialization, and those of its
variants and their fields, reappear in order on each generated enum, with parentheses around their
tokens. So they reappear as they are exactly if none has other brackets. -/
theorem attributes_rounded {x : Expanded} (h : expand models (.enumeration source) = .ok x)
    (sound : ∀ a ∈ everyAttribute source, a.Sound) {e : EnumItem} (he : e ∈ x.generated) :
    AttributesFollow Attribute.rounded source e ∧
      (AttributesFollow id source e ↔
        ∀ a ∈ carriedAttributes source, ∀ d tokens, a.form = .list d tokens → d = .round) := by
  obtain ⟨i, hi, rfl⟩ := List.getElem_of_mem he
  obtain ⟨length, made⟩ := List.forall₂_iff_get.1 (rendered_of_expand h).1
  have follow : AttributesFollow Attribute.rounded source x.generated[i] :=
    attributes_of_enumOf sound (made i (length ▸ hi) hi)
  refine ⟨follow, ?_⟩
  rw [follow_id_iff follow]
  exact forall₂_congr fun a _ => rounded_eq_self_iff

/-- A model without a name. -/
def stringModels : List ModelRequest := [{ type := { path := ⟨"String"⟩ } }]

/-- An enum with an attribute that asks for specialization, an attribute with a path and
parentheses, and a bare one on its variant. -/
def markedEnum : EnumItem :=
  { payloadEnum with
    attributes :=
      [{ path := { names := ["sealforge", "extensive_sealed"] }, form := .bare },
       { path := { leading := true, names := ["core", "a"] }, form := .list .round [.word "b"] }]
    variants := payloadEnum.variants.map fun v =>
      { v with attributes := [{ path := { names := ["c"] }, form := .bare }] } }

theorem markedEnum_kept :
    ∃ x, expand stringModels (.enumeration markedEnum) = .ok x ∧ x.generated.length = 1 ∧
      ∀ e ∈ x.generated, AttributesFollow id markedEnum e := by
  obtain ⟨x, expanded, length⟩ : ∃ x, expand stringModels (.enumeration markedEnum) = .ok x ∧
      x.generated.length = 1 := by
    refine exists_expand List.length rfl (by decide) ?_ (by decide) (by decide +kernel)
    simp only [← TypeRef.nestsPlaceholder_iff]
    decide
  have plain : ∀ a ∈ everyAttribute markedEnum, a.path.names ≠ [] ∧
      ∀ n ∈ a.path.names, Lexing.IsName n.toList ∧ Look.pathWord [.word n] := by
    decide
  have form : ∀ a ∈ everyAttribute markedEnum,
      a.form = .bare ∨ a.form = .list .round [.word "b"] := by
    simp [everyAttribute, markedEnum, payloadEnum, Fields.list]
  have sound : ∀ a ∈ everyAttribute markedEnum, a.Sound := by
    intro a ha
    obtain ⟨filled, words⟩ := plain a ha
    refine ⟨⟨filled, fun n hn => .plain (words n hn).1, .inr fun n hn => (words n hn).2⟩, ?_, ?_⟩
    · intro d code same
      rcases form a ha with bare | list
      · cases bare.symm.trans same
      · cases list.symm.trans same
        exact .word (.plain (by decide)) .nil
    · intro code same
      rcases form a ha with bare | list
      · cases bare.symm.trans same
      · cases list.symm.trans same
  refine ⟨x, expanded, length, fun e he => ?_⟩
  refine (attributes_rounded expanded sound he).2.2 fun a ha d tokens same => ?_
  rcases form a (mem_everyAttribute ha) with bare | list
  · cases bare.symm.trans same
  · cases list.symm.trans same
    rfl

/-- An enum whose attributes have brackets of the other kinds. -/
def bracketedEnum : EnumItem :=
  { payloadEnum with
    attributes :=
      [{ path := { names := ["a"] }, form := .list .curly [.word "b"] },
       { path := { names := ["c"] }, form := .list .square [.word "d"] }] }

theorem bracketedEnum_changed :
    ∃ x, expand stringModels (.enumeration bracketedEnum) = .ok x ∧ x.generated.length = 1 ∧
      ∀ e ∈ x.generated, ¬ AttributesFollow id bracketedEnum e := by
  have tail : ∃ x, expand stringModels (.enumeration bracketedEnum) = .ok x ∧
      x.generated.map (fun e => (Attribute.listCode e.attributes.tail).text) =
        ["# [a (b)] # [c (d)]"] := by
    refine exists_expand (List.map _) rfl (by decide) ?_ (by decide) (by decide +kernel)
    simp only [← TypeRef.nestsPlaceholder_iff]
    decide
  obtain ⟨x, expanded, texts⟩ := tail
  refine ⟨x, expanded, by simpa using congrArg List.length texts, fun e he follow => ?_⟩
  obtain ⟨doc, same⟩ := follow.enum
  have text : (Attribute.listCode e.attributes.tail).text = "# [a (b)] # [c (d)]" :=
    List.mem_singleton.1 (texts ▸ List.mem_map_of_mem he)
  rw [same, List.map_id, List.tail_cons] at text
  exact absurd text (by decide +kernel)

end Concretize.Expansion
