import Concretize.Expansion
import Concretize.Proofs.Generation
import Concretize.Proofs.Realization

/-!
# What an expansion writes

An enum is expanded by a pass over the declaration it stands for, and the result is read back
against the source, variant by variant and field by field.

* `toRef_eq_placeholder_iff`: which types stand for the payload.
* `expand_enumeration`: an expansion is the outcome of one declaration, and each generated hierarchy
  rendered as an enum.
* `specializes_of_enumOf`: the enum rendered from a hierarchy follows the source; nothing is lost
  where the two are walked in step.
* `expand_specializes`: so what is written is the source with one such enum for each distinct model.
-/
namespace Concretize.Expansion

open Code

variable {source : EnumItem} {models : List ModelRequest}

/-! ## The payload -/

/-- A type that stands for the payload: a path that ends in the word for it, without arguments.
Parentheses do not count. -/
inductive IsPayload : TypeForm → Prop where
  | path {leading : Bool} {front : List Code.Segment} {last : Code.Segment}
      (word : last.name = placeholderWord) (bare : last.lacksArguments) :
      IsPayload (.path leading (front ++ [last]))
  | paren {inner : TypeForm} (h : IsPayload inner) : IsPayload (.paren inner)

theorem namesPlaceholder_iff {segments : List Code.Segment} :
    namesPlaceholder segments ↔ ∃ front last, segments = front ++ [last] ∧
      last.name = placeholderWord ∧ last.lacksArguments := by
  unfold namesPlaceholder
  cases ending : segments.getLast? with
  | none =>
    rw [List.getLast?_eq_none_iff] at ending
    simp [ending]
  | some last =>
    obtain ⟨front, rfl⟩ := List.getLast?_eq_some_iff.1 ending
    simp only [Bool.and_eq_true, beq_iff_eq]
    constructor
    · exact fun h => ⟨front, last, rfl, h⟩
    · rintro ⟨front', last', h, word, bare⟩
      obtain ⟨-, last_eq⟩ := List.append_inj' h rfl
      rw [List.singleton_inj.1 last_eq]
      exact ⟨word, bare⟩

theorem toRef_eq_placeholder_iff : (type : TypeForm) →
    (type.toRef = .placeholder ↔ IsPayload type)
  | .path leading segments => by
    rw [TypeForm.toRef]
    split
    · next payload =>
      obtain ⟨front, last, rfl, word, bare⟩ := namesPlaceholder_iff.1 payload
      exact iff_of_true rfl (.path word bare)
    · next other =>
      refine iff_of_false nofun ?_
      rintro ⟨word, bare⟩
      exact other (namesPlaceholder_iff.2 ⟨_, _, rfl, word, bare⟩)
  | .paren inner => by
    rw [TypeForm.toRef, toRef_eq_placeholder_iff inner]
    exact ⟨.paren, fun | .paren h => h⟩
  | .compound pieces => by
    rw [TypeForm.toRef]
    exact iff_of_false nofun nofun

/-! ## One declaration collected -/

theorem offerHierarchies_collected (d : Declaration) (hs : List Hierarchy) (c : Collected) :
    (offerHierarchies d hs c).emitter = { c with hierarchies := c.hierarchies ++ hs } := by
  induction hs generalizing c with
  | nil => simp [offerHierarchies]
  | cons h hs ih =>
    simp only [offerHierarchies, ih]
    simp [offerHierarchy, reportRefusal, Emitter.emit]

/-- What is collected of a declaration with an outcome. -/
def collectedOf (d : Declaration) : Outcome → Collected
  | .skipped => {}
  | .failed e => { diagnostics := [.ofError d e] }
  | .generated g => { hierarchies := g.hierarchies, retention := [(d.name, g.directives)] }

theorem run_collected (s : Settings) (d : Declaration) :
    (s.run [d] ({} : Collected)).emitter = collectedOf d (s.process d) := by
  rw [(run_eq s [d] _).1]
  cases outcome : s.process d with
  | skipped => simp [emitOutcomes, emitOutcome, outcome, collectedOf]
  | failed e =>
    simp [emitOutcomes, emitOutcome, outcome, collectedOf, handOver, Emitter.report]
  | generated g =>
    simp [emitOutcomes, emitOutcome, outcome, collectedOf, offerHierarchies_collected,
      offerRetention, reportRefusal, Emitter.emitRetention]

/-! ## One expansion -/

/-- The declaration that an enum stands for, with the models asked for. -/
def requested (models : List ModelRequest) (source : EnumItem) : Declaration :=
  models.foldl Declaration.request (enumDeclaration source)

theorem foldl_request (models : List ModelRequest) (d : Declaration) :
    ∃ all, models.foldl Declaration.request d = { d with models := all } ∧
      all.getD [] = d.models.getD [] ++ models := by
  induction models generalizing d with
  | nil => exact ⟨d.models, rfl, (List.append_nil _).symm⟩
  | cons m models ih =>
    obtain ⟨all, declared, asked⟩ := ih (d.request m)
    refine ⟨all, declared, asked.trans ?_⟩
    simp [Declaration.request]

theorem requested_eq (models : List ModelRequest) (source : EnumItem) :
    ∃ all, requested models source = { enumDeclaration source with models := all } ∧
      all.getD [] = models := by
  exact foldl_request models (enumDeclaration source)

theorem bindings_requested :
    (requested models source).bindings = (firstOccurrences models).map ModelRequest.toBinding := by
  obtain ⟨all, declared, asked⟩ := requested_eq models source
  rw [declared, Declaration.bindings, asked]

theorem variants_requested :
    (requested models source).variants = source.variants.map variantOf := by
  obtain ⟨all, declared, -⟩ := requested_eq models source
  rw [declared]
  rfl

/-- An expansion is decided by the outcome of the declaration. -/
theorem expand_enumeration [Reader] (h : source.generic = false) :
    expand models (.enumeration source) =
      match settings.process (requested models source) with
      | .skipped => .ok { source, generated := [] }
      | .failed e => .error (.refused [e.message])
      | .generated g =>
        g.hierarchies.mapM (enumOf source) >>= fun generated => .ok { source, generated } := by
  have pass := run_collected settings (requested models source)
  simp only [requested] at pass ⊢
  simp only [expand, declarationOf, h, Bool.false_eq_true, if_false, pure_bind, pass]
  cases settings.process (models.foldl Declaration.request (enumDeclaration source)) with
  | skipped => rfl
  | failed e => rfl
  | generated g => rfl

/-! ## The rendered enum against its source -/

/-- A field for a model: the payload has become the type of the model, read from its text, and every
other type is kept. -/
structure FieldFollows (model : ModelRequest) (f g : Field) : Prop where
  name : g.name = f.name
  payload : IsPayload f.type → model.type.toRef.toForm? = some g.type
  kept : ¬ IsPayload f.type → g.type = f.type

/-- Fields for a model, in the brackets of the source. -/
inductive FieldsFollow (model : ModelRequest) : Fields → Fields → Prop where
  | unit : FieldsFollow model .unit .unit
  | unnamed {fs gs : List Field} {comma comma' : Bool}
      (h : List.Forall₂ (FieldFollows model) fs gs) :
      FieldsFollow model (.unnamed fs comma) (.unnamed gs comma')
  | named {fs gs : List Field} {comma comma' : Bool}
      (h : List.Forall₂ (FieldFollows model) fs gs) :
      FieldsFollow model (.named fs comma) (.named gs comma')

/-- A variant for a model. Neither it nor its source is given a number. -/
structure VariantFollows (model : ModelRequest) (v w : EnumVariant) : Prop where
  name : w.name = v.name
  fields : FieldsFollow model v.fields w.fields
  unnumbered : v.discriminant = none ∧ w.discriminant = none

/-- An enum for a model: as visible as the source, and with its variants. -/
structure EnumFollows (source : EnumItem) (model : ModelRequest) (e : EnumItem) : Prop where
  visibility : e.visibility = source.visibility
  simple : e.generic = false ∧ e.parameters = []
  variants : List.Forall₂ (VariantFollows model) source.variants e.variants

section Traversal
variable {α β γ ε : Type}

theorem mapM_eq_ok_iff_forall₂ {f : α → Except ε β} {l : List α} {ys : List β} :
    l.mapM f = .ok ys ↔ List.Forall₂ (fun a b => f a = .ok b) l ys := by
  induction l generalizing ys with
  | nil => simp [pure, Except.pure, eq_comm]
  | cons a l ih =>
    simp only [List.mapM_cons, bind_eq_ok_iff, ih, pure, Except.pure, Except.ok.injEq,
      List.forall₂_cons_left_iff, eq_comm (a := ys)]
    constructor
    · rintro ⟨b, hb, bs, hbs, rfl⟩
      exact ⟨b, bs, hb, hbs, rfl⟩
    · rintro ⟨b, bs, hb, hbs, rfl⟩
      exact ⟨b, hb, bs, hbs, rfl⟩

/-- A traversal in step with an image of its own list walks that list only. -/
theorem forall₂_of_mapM_zip {f : α × γ → Except ε β} {g : α → γ} {l : List α} {ys : List β}
    (h : (l.zip (l.map g)).mapM f = .ok ys) :
    List.Forall₂ (fun a b => f (a, g a) = .ok b) l ys := by
  rw [← List.map_prod_left_eq_zip, mapM_eq_ok_iff_forall₂, List.forall₂_map_left_iff] at h
  exact h

end Traversal

variable {model : ModelRequest}

/-- The type of a specialized field: as written, or read from the text of the parameter's. -/
theorem fieldOf_eq_ok_iff {f g : Field} {p : Parameter} :
    fieldOf f p = .ok g ↔ ∃ attributes type, attributesOf p.markers = .ok attributes ∧
      (p.type = f.type.toRef ∧ type = f.type ∨
        p.type ≠ f.type.toRef ∧ p.type.toForm? = some type) ∧
      g = { attributes, visibility := .inherited, name := f.name, type } := by
  have form {t : TypeRef} {type : TypeForm} : formOf t = .ok type ↔ t.toForm? = some type := by
    simp only [formOf, TypeRef.toForm?, Reader.type]
    cases typeOfText? t.sourceText <;> simp [pure, Except.pure, throw, throwThe, MonadExceptOf.throw]
  by_cases same : p.type = f.type.toRef <;>
    simp [fieldOf, same, bind_eq_ok_iff, form, pure, Except.pure, eq_comm (b := g)]

theorem follows_of_fieldOf {f g : Field}
    (h : fieldOf f ((parameterOf f).fill model.toBinding) = .ok g) : FieldFollows model f g := by
  obtain ⟨attributes, type, -, typed, rfl⟩ := fieldOf_eq_ok_iff.1 h
  simp only [Parameter.fill, parameterOf] at typed
  refine ⟨rfl, fun payload => ?_, fun other => ?_⟩
  · rw [(toRef_eq_placeholder_iff f.type).2 payload, TypeRef.fill] at typed
    rcases typed with ⟨same, -⟩ | ⟨-, reads⟩
    · cases same
    · exact reads
  · rw [← toRef_eq_placeholder_iff] at other
    rw [fill_of_ne other] at typed
    rcases typed with ⟨-, rfl⟩ | ⟨different, -⟩
    · rfl
    · exact absurd rfl different

theorem follows_of_fieldsOf {fs gs : Fields}
    (h : fieldsOf fs ((fs.list.map parameterOf).map (Parameter.fill model.toBinding)) = .ok gs) :
    FieldsFollow model fs gs := by
  simp only [fieldsOf, bind_eq_ok_iff, pure, Except.pure, Except.ok.injEq] at h
  obtain ⟨fields, walked, rfl⟩ := h
  rw [List.map_map] at walked
  have fields_follow : List.Forall₂ (FieldFollows model) fs.list fields :=
    (forall₂_of_mapM_zip walked).imp fun f g => follows_of_fieldOf
  cases fs with
  | unit => exact .unit
  | unnamed fs comma => exact .unnamed fields_follow
  | named fs comma => exact .named fields_follow

theorem follows_of_enumVariantOf {v w : EnumVariant} (unnumbered : v.discriminant = none)
    (h : enumVariantOf v ((variantOf v).fill model.toBinding) = .ok w) :
    VariantFollows model v w := by
  simp only [enumVariantOf, bind_eq_ok_iff, pure, Except.pure, Except.ok.injEq] at h
  obtain ⟨attributes, -, fields, walked, rfl⟩ := h
  exact ⟨rfl, follows_of_fieldsOf walked, unnumbered, rfl⟩

/-- The enum rendered from the hierarchy of a model follows the source. -/
theorem follows_of_enumOf {d : Declaration} (variants : d.variants = source.variants.map variantOf)
    (unnumbered : ∀ v ∈ source.variants, v.discriminant = none) {e : EnumItem}
    (h : enumOf source (settings.realize d model.toBinding) = .ok e) :
    EnumFollows source model e := by
  unfold enumOf at h
  split at h
  · next name named =>
    simp only [bind_eq_ok_iff, pure, Except.pure, Except.ok.injEq] at h
    obtain ⟨attributes, -, rendered, walked, rfl⟩ := h
    refine ⟨rfl, ⟨rfl, rfl⟩, ?_⟩
    simp only [Settings.realize, Declaration.instantiate, variants, List.map_map] at walked
    refine ((List.forall₂_and_left _ _).2 ⟨unnumbered, forall₂_of_mapM_zip walked⟩).imp ?_
    rintro v w ⟨plain, rendered⟩
    exact follows_of_enumVariantOf plain rendered
  · cases h

/-! ## The whole expansion -/

theorem kindOf_eq_enumEntry {v : EnumVariant} : kindOf v = .enumEntry ↔ v.discriminant ≠ none := by
  unfold kindOf
  cases v.discriminant with
  | some number => simp
  | none => cases v.fields <;> simp

/-- A variant with a number is a mere entry, which cannot be specialized. -/
theorem unnumbered_of_generated {g : Generation}
    (h : settings.process (requested models source) = .generated g) :
    ∀ v ∈ source.variants, v.discriminant = none := by
  obtain ⟨-, -, -, clean, -⟩ := process_eq_generated_iff.1 h
  rw [Declaration.exists_firstFault_iff, variants_requested] at clean
  intro v hv
  by_contra numbered
  have entry : (variantOf v).kind = .enumEntry := kindOf_eq_enumEntry.2 numbered
  exact clean ⟨variantOf v, List.mem_map_of_mem hv, _, .wrongKind (by simp [entry])⟩

/-- **Expansion.** The tokens of the source come first, as they are, and after them one enum for
each distinct model in the order of first mention. Every one of these is as visible as the source
and has its variants: under their names, in the same brackets, with the same fields. Where a field
is the payload its type is read from the text of the model's type; any other type is kept. -/
theorem expand_specializes {x : Expanded} (h : expand models (.enumeration source) = .ok x) :
    x.code = source.code ++ x.generated.flatMap EnumItem.code ∧
      List.Forall₂ (EnumFollows source) (firstOccurrences models) x.generated := by
  have simple : source.generic = false := by
    by_contra generic
    rw [Bool.not_eq_false] at generic
    simp [expand, declarationOf, generic, throw, throwThe, MonadExceptOf.throw, bind,
      Except.bind] at h
  rw [expand_enumeration simple] at h
  cases outcome : settings.process (requested models source) with
  | skipped =>
    rw [outcome] at h
    cases h
    obtain ⟨-, unbound⟩ := process_eq_skipped_iff.1 outcome
    rw [bindings_requested, List.map_eq_nil_iff] at unbound
    exact ⟨rfl, unbound ▸ .nil⟩
  | failed e =>
    rw [outcome] at h
    cases h
  | generated g =>
    rw [outcome] at h
    simp only [bind_eq_ok_iff, Except.ok.injEq] at h
    obtain ⟨enums, rendered, rfl⟩ := h
    obtain ⟨-, -, -, -, rfl⟩ := process_eq_generated_iff.1 outcome
    rw [Settings.generation, bindings_requested, List.map_map, mapM_eq_ok_iff_forall₂,
      List.forall₂_map_left_iff] at rendered
    refine ⟨rfl, rendered.imp fun model e => ?_⟩
    exact follows_of_enumOf variants_requested (unnumbered_of_generated outcome)

/-- A result with its payload in parentheses, beside a field that is kept. -/
def outcomeEnum : EnumItem where
  attributes := []
  visibility := .everyone
  name := "Outcome"
  generic := false
  parameters := []
  variants :=
    [{ attributes := []
       name := "Done"
       fields := .unnamed
        [{ attributes := [], visibility := .inherited, name := none
           type := .paren (.path false [.plain "Extensive"]) }] false
       discriminant := none },
     { attributes := []
       name := "Failed"
       fields := .named
        [{ attributes := [], visibility := .inherited, name := some "code"
           type := .path false [.plain "u16"] }] true
       discriminant := none },
     { attributes := [], name := "Idle", fields := .unit, discriminant := none }]
  trailing := true

/-- Two models, of which one is asked for twice. -/
def wordModels : List ModelRequest :=
  [{ type := { path := ⟨"String"⟩ } },
   { name := "raw", type := { path := ⟨"Vec"⟩, arguments := [.concrete ⟨"u8"⟩ [] false] } },
   { type := { path := ⟨"String"⟩ } }]

theorem outcomeEnum_specializes :
    ∃ x, expand wordModels (.enumeration outcomeEnum) = .ok x ∧ x.generated.length = 2 ∧
      List.Forall₂ (EnumFollows outcomeEnum) (firstOccurrences wordModels) x.generated := by
  let d := requested wordModels outcomeEnum
  have pass : settings.NamesPass d := .inr (not_collides_iff_nodup.2 (by decide +kernel))
  have clean : settings.hierarchy d ⟨none, { path := ⟨"String"⟩ }⟩ = .ok _ := rfl
  have generated := process_of_hierarchy_eq_ok (by decide) (by decide +kernel) pass clean
  have rendered : ((settings.generation d).hierarchies.mapM (enumOf outcomeEnum)).isOk = true := by
    decide +kernel
  have expanded : expand wordModels (.enumeration outcomeEnum) = _ := expand_enumeration rfl
  rw [generated] at expanded
  cases enums : (settings.generation d).hierarchies.mapM (enumOf outcomeEnum) with
  | error e =>
    rw [enums] at rendered
    cases rendered
  | ok es =>
    simp only [enums] at expanded
    have follows := (expand_specializes expanded).2
    exact ⟨_, expanded, follows.length_eq.symm.trans (by decide), follows⟩

end Concretize.Expansion
