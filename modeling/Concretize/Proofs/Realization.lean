import Concretize.Proofs.Outcome
import Mathlib.Data.List.Forall2

/-!
# What a generated hierarchy keeps and what it replaces

A hierarchy *realizes* a binding of its source declaration: `Declaration.Realizes` lists, field by
field, what is copied from the source and what comes from the binding, down to the parameters of
every variant.

* `generated_realizes`: the hierarchies of every generation realize the distinct bindings of the
  declaration, one for one and in order.
* `placeholderFree_iff`: with nested placeholders refused, no placeholder is left exactly if no
  placeholder comes in with the type of a binding. `listOfPlaceholder_left` shows one that does.
-/
namespace Concretize

variable {s : Settings} {d : Declaration} {g : Generation}

/-! ## Realization -/

/-- `q` is `p` with the type of the binding in place of the bare placeholder. -/
structure Parameter.Realizes (b : Binding) (p q : Parameter) : Prop where
  name : q.name = p.name
  mutable : q.mutable = p.mutable
  markers : q.markers = p.markers
  replaced : p.type = .placeholder → q.type = b.type.toRef
  kept : p.type ≠ .placeholder → q.type = p.type

/-- `w` is `v` with its parameters realized, below the type generated for the binding. -/
structure Variant.Realizes (d : Declaration) (b : Binding) (v : Variant) (w : GeneratedVariant) :
    Prop where
  name : w.declaration.name = v.name
  kind : w.declaration.kind = v.kind
  modifiers : w.declaration.modifiers = v.modifiers
  markers : w.declaration.markers = v.markers
  parameters : List.Forall₂ (Parameter.Realizes b) v.parameters w.declaration.parameters
  supertype : d.kind = .interface ∧ w.supertype = .implements (d.generatedName b) ∨
    d.kind = .klass ∧ w.supertype = .extends (d.generatedName b)

/-- `h` is the declaration under the name generated for the binding, with all its variants
realized and without the annotations named like the trigger. -/
structure Declaration.Realizes (trigger : String) (d : Declaration) (b : Binding) (h : Hierarchy) :
    Prop where
  name : h.name = d.generatedName b
  source : h.source = d.name
  kind : h.kind = d.kind
  modifiers : h.modifiers = d.modifiers
  markers : h.markers =
    d.markers.filter fun m => m.name.text ≠ trigger ∧ m.name.simpleName ≠ trigger
  binding : h.binding = b
  variants : List.Forall₂ (Variant.Realizes d b) d.variants h.variants

theorem Parameter.realizes_fill (b : Binding) (p : Parameter) : p.Realizes b (p.fill b) where
  name := rfl
  mutable := rfl
  markers := rfl
  replaced h := by simp [Parameter.fill, h, TypeRef.fill]
  kept h := fill_of_ne h

theorem Variant.realizes_fill (hd : d.IsClosed) (b : Binding) (v : Variant) :
    v.Realizes d b ⟨v.fill b, d.kind.supertype (d.generatedName b)⟩ where
  name := rfl
  kind := rfl
  modifiers := rfl
  markers := rfl
  parameters := by
    rw [Variant.fill, List.forall₂_map_right_iff, List.forall₂_same]
    exact fun p _ => p.realizes_fill b
  supertype := by
    rcases hd.1 with h | h
    · exact .inr ⟨h, by simp [Kind.supertype, h]⟩
    · exact .inl ⟨h, by simp [Kind.supertype, h]⟩

theorem realizes_realize (hd : d.IsClosed) (b : Binding) :
    d.Realizes s.trigger b (s.realize d b) where
  name := rfl
  source := rfl
  kind := rfl
  modifiers := rfl
  markers := by
    simp only [Settings.realize, Declaration.instantiate]
    refine List.filter_congr fun m _ => ?_
    rw [Bool.eq_iff_iff]
    simp [QualifiedName.answersTo]
  binding := rfl
  variants := by
    simp only [Settings.realize, Declaration.instantiate, List.map_map]
    rw [List.forall₂_map_right_iff, List.forall₂_same]
    exact fun v _ => Variant.realizes_fill hd b v

/-- **Realization.** Each generated hierarchy realizes the binding at its position, and there is
one for each distinct binding. -/
theorem generated_realizes (h : s.process d = .generated g) :
    List.Forall₂ (d.Realizes s.trigger) d.bindings g.hierarchies := by
  obtain ⟨hd, -, -, -, rfl⟩ := process_eq_generated_iff.1 h
  rw [Settings.generation, List.forall₂_map_right_iff, List.forall₂_same]
  exact fun b _ => realizes_realize hd b

/-- An annotated interface that asks for a text twice and for a poster by name. -/
def uiState : Declaration where
  name := ⟨"app.UIState"⟩
  kind := .interface
  modifiers := [.isSealed, .isPublic]
  markers := [{ name := ⟨"app.Stable"⟩ }, { name := ⟨"sealforge.ExtensiveSealed"⟩ }]
  variants :=
    [{ name := "Success"
       kind := .klass
       parameters :=
        [{ name := some "data", type := .placeholder, mutable := true },
         { name := none, type := .concrete ⟨"kotlin.List"⟩ [.placeholder] false }] },
     { name := "Loading", kind := .object }]
  models := some
    [{ type := { path := ⟨"kotlin.String"⟩ } }, { type := { path := ⟨"kotlin.String"⟩ } },
     { name := "poster", type := { path := ⟨"app.Poster"⟩, nullable := true } }]

/-- Settings that preserve nested placeholders and allow collisions. -/
def lenient : Settings := { nested := .preserve, collisions := .allow }

theorem uiState_realizes :
    ∃ g, lenient.process uiState = .generated g ∧ g.hierarchies.length = 2 ∧
      List.Forall₂ (uiState.Realizes lenient.trigger) uiState.bindings g.hierarchies := by
  let b : Binding := ⟨none, { path := ⟨"kotlin.String"⟩ }⟩
  have clean : lenient.hierarchy uiState b = .ok _ := rfl
  have h := process_of_hierarchy_eq_ok (by decide) (by decide) (.inl rfl) clean
  exact ⟨_, h, by decide, generated_realizes h⟩

/-! ## Freedom from the placeholder -/

/-- No parameter of the hierarchy mentions the placeholder, at any depth. -/
def Hierarchy.PlaceholderFree (h : Hierarchy) : Prop :=
  ∀ w ∈ h.variants, ∀ q ∈ w.declaration.parameters, ¬ q.type.Mentions

/-- With nested placeholders refused, a variant without a fault has no nested placeholder. -/
theorem not_nests_of_not_faulty {v : Variant} (h : ∀ e, ¬ v.Faulty d .reject e) {p : Parameter}
    (hp : p ∈ v.parameters) : ¬ p.type.Nests := by
  intro hn
  have hne := List.ne_nil_of_mem hp
  cases hk : v.kind with
  | klass =>
    have some : ∃ p ∈ v.parameters, p.Refused .reject := ⟨p, hp, rfl, hn⟩
    obtain ⟨i, q, hq⟩ := exists_first_iff.2 some
    exact h _ (.refused hk hq)
  | interface => exact h _ (.withParameters (.inr hk) hne)
  | object => exact h _ (.withParameters (.inl hk) hne)
  | enumClass => exact h _ (.wrongKind (by simp [hk]))
  | enumEntry => exact h _ (.wrongKind (by simp [hk]))
  | annotationClass => exact h _ (.wrongKind (by simp [hk]))

/-- The hierarchy of a binding is free of the placeholder exactly if the binding does not put a
nested one in the place of a bare one. -/
theorem realize_placeholderFree_iff (hv : ∀ v ∈ d.variants, ∀ p ∈ v.parameters, ¬ p.type.Nests)
    {b : Binding} :
    (s.realize d b).PlaceholderFree ↔
      (b.type.toRef.Nests → ∀ v ∈ d.variants, ∀ p ∈ v.parameters, p.type ≠ .placeholder) := by
  simp only [Hierarchy.PlaceholderFree, Settings.realize, Declaration.instantiate, List.map_map,
    List.mem_map, Function.comp_apply, forall_exists_index, and_imp, forall_apply_eq_imp_iff₂,
    Variant.fill, Parameter.fill, mentions_fill, not_or, not_and]
  constructor
  · intro h hb v hm p hp he
    exact (h v hm p hp).1 he hb
  · intro h v hm p hp
    exact ⟨fun he hb => h hb v hm p hp he, hv v hm p hp⟩

/-- **Freedom from the placeholder.** With nested placeholders refused, the generated hierarchies
are free of the placeholder exactly if no binding of the declaration nests it in its type, or no
parameter of the declaration is the bare placeholder. -/
theorem placeholderFree_iff (hs : s.nested = .reject) (h : s.process d = .generated g) :
    (∀ h ∈ g.hierarchies, h.PlaceholderFree) ↔
      ((∀ b ∈ d.bindings, ¬ b.type.toRef.Nests) ∨
        ∀ v ∈ d.variants, ∀ p ∈ v.parameters, p.type ≠ .placeholder) := by
  obtain ⟨-, -, -, hf, rfl⟩ := process_eq_generated_iff.1 h
  rw [Declaration.exists_firstFault_iff, hs] at hf
  have hv : ∀ v ∈ d.variants, ∀ p ∈ v.parameters, ¬ p.type.Nests := fun v hm p hp =>
    not_nests_of_not_faulty (fun e he => hf ⟨v, hm, e, he⟩) hp
  simp only [Settings.generation, List.forall_mem_map, realize_placeholderFree_iff hv]
  constructor
  · intro h
    by_cases hb : ∃ b ∈ d.bindings, b.type.toRef.Nests
    · obtain ⟨b, hm, hn⟩ := hb
      exact .inr (h b hm hn)
    · exact .inl fun b hm hn => hb ⟨b, hm, hn⟩
  · rintro (h | h) b hm hn
    · exact absurd hn (h b hm)
    · exact h

/-- A parameter that is the bare placeholder, beside one that is not, for two models. -/
def pair : Declaration where
  name := ⟨"app.Pair"⟩
  kind := .klass
  modifiers := [.isSealed]
  variants :=
    [{ name := "Both"
       kind := .klass
       parameters :=
        [{ name := some "data", type := .placeholder },
         { name := some "tags"
           type := .concrete ⟨"kotlin.List"⟩ [.concrete ⟨"app.Tag"⟩ [] true] false }] }]
  models := some
    [{ type := { path := ⟨"kotlin.Int"⟩ } },
     { type := { path := ⟨"kotlin.Set"⟩, arguments := [.concrete ⟨"kotlin.Int"⟩ [] false] } }]

theorem pair_placeholderFree :
    ∃ g, ({ collisions := .allow } : Settings).process pair = .generated g ∧
      g.hierarchies.length = 2 ∧ ∀ h ∈ g.hierarchies, h.PlaceholderFree := by
  let s : Settings := { collisions := .allow }
  let b : Binding := ⟨none, { path := ⟨"kotlin.Int"⟩ }⟩
  have clean : s.hierarchy pair b = .ok _ := rfl
  have h := process_of_hierarchy_eq_ok (by decide) (by decide) (.inl rfl) clean
  refine ⟨_, h, by decide, (placeholderFree_iff rfl h).2 (.inl ?_)⟩
  simp only [← TypeRef.nestsPlaceholder_iff]
  decide

/-- A declaration whose only model is a list of the placeholder. -/
def listOfPlaceholder : Declaration where
  name := ⟨"com.example.UIState"⟩
  kind := .interface
  modifiers := [.isSealed]
  variants :=
    [{ name := "Success"
       kind := .klass
       parameters := [{ name := some "data", type := .placeholder }] }]
  models := some [{ type := { path := ⟨"kotlin.collections.List"⟩, arguments := [.placeholder] } }]

/-- The type of a binding is not looked into: under the default settings, which refuse nested
placeholders, the generated parameter nests one. -/
theorem listOfPlaceholder_left :
    ∃ g, ({} : Settings).process listOfPlaceholder = .generated g ∧
      ∃ h ∈ g.hierarchies, ∃ w ∈ h.variants, ∃ q ∈ w.declaration.parameters, q.type.Mentions := by
  let s : Settings := {}
  let b : Binding := ⟨none, { path := ⟨"kotlin.collections.List"⟩, arguments := [.placeholder] }⟩
  have single : listOfPlaceholder.bindings = [b] := by decide
  have clean : s.hierarchy listOfPlaceholder b = .ok _ := rfl
  have pass : s.NamesPass listOfPlaceholder := by
    refine .inr fun n ⟨x, hx, y, hy, hne, _⟩ => hne ?_
    rw [single, List.mem_singleton] at hx hy
    rw [hx, hy]
  have h := process_of_hierarchy_eq_ok (by decide) (by decide) pass clean
  refine ⟨_, h, s.realize listOfPlaceholder b, by simp [Settings.generation, single], _,
    List.mem_cons_self, _, List.mem_cons_self, ?_⟩
  exact .argument List.mem_cons_self .bare

end Concretize
