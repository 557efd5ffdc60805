import Concretize.Proofs.Outcome
import Mathlib.Data.List.Forall2

/-!
# What the directives of a generation keep

A generation lists its directives flat, the hierarchies they belong to are nested. Seen from the
declaration, there is one directive for each binding and variant, in this order of counting:
`Declaration.directive` says which, from the source types and the type of the binding alone.

* `directives_realize`: the directives of one hierarchy, after the placeholder is replaced and the
  types are erased.
* `target_injective`: a binary name gives back the names of type and variant, unless the variant has
  a `$` of its own.
* `directives_aligned`: the directives of a generation, and when no two of them keep the same class.
-/
namespace Concretize

variable {s : Settings} {d : Declaration} {g : Generation} {b : Binding}

/-! ## One directive -/

/-- The class of a parameter once the placeholder is replaced, without type arguments and `?`. -/
def TypeRef.erasedFor (b : Binding) : TypeRef → String
  | .placeholder => b.type.path.text
  | .concrete path _ _ => path.text

/-- What must be kept of a variant under the name generated for the binding. -/
def Declaration.directive (d : Declaration) (b : Binding) (v : Variant) : Directive where
  target := (d.generatedName b).text ++ "$" ++ v.name
  kind := v.kind
  parameterTypes := if v.kind = .klass then v.parameters.map (·.type.erasedFor b) else []

theorem erased_fill (b : Binding) (t : TypeRef) : (t.fill b.type).erased = t.erasedFor b := by
  cases t with
  | placeholder => rfl
  | concrete path arguments nullable => rfl

theorem erasedParameters_fill (b : Binding) (v : Variant) :
    (v.fill b).erasedParameters = (d.directive b v).parameterTypes := by
  simp only [Variant.erasedParameters, Variant.fill, Declaration.directive, List.map_map]
  refine ite_congr rfl (fun _ => ?_) fun _ => rfl
  exact List.map_congr_left fun p _ => erased_fill b p.type

/-- One directive per variant, in order. -/
theorem directives_realize (b : Binding) :
    (s.realize d b).directives = d.variants.map (d.directive b) := by
  simp only [Hierarchy.directives, Settings.realize, Declaration.instantiate, List.map_map]
  refine List.map_congr_left fun v _ => ?_
  simp only [Function.comp_apply, erasedParameters_fill (d := d)]
  rfl

theorem names_realize (b : Binding) :
    (s.realize d b).variants.map (·.declaration.name) = d.variants.map (·.name) := by
  simp only [Settings.realize, Declaration.instantiate, List.map_map]
  exact List.map_congr_left fun v _ => rfl

/-! ## Binary names -/

/-- Two texts are the same if they are so up to the last `$` and after it. -/
theorem append_dollar_inj {p q v w : List Char} (hv : '$' ∉ v) (hw : '$' ∉ w)
    (h : p ++ '$' :: v = q ++ '$' :: w) : p = q ∧ v = w := by
  -- The longer one of `p` and `q` would have its surplus, and with it a `$`, inside `v` or `w`.
  rcases List.append_eq_append_iff.1 h with ⟨c, rfl, hc⟩ | ⟨c, rfl, hc⟩
  · cases c with
    | nil => exact ⟨(List.append_nil p).symm, (List.cons.inj hc).2⟩
    | cons x c =>
      obtain ⟨-, rfl⟩ := List.cons.inj hc
      exact absurd (by simp) hv
  · cases c with
    | nil => exact ⟨List.append_nil q, (List.cons.inj hc).2.symm⟩
    | cons x c =>
      obtain ⟨-, rfl⟩ := List.cons.inj hc
      exact absurd (by simp) hw

/-- Whether no `$` occurs in the name of the variant. -/
def Variant.DollarFree (v : Variant) : Prop := '$' ∉ v.name.toList

instance (v : Variant) : Decidable v.DollarFree := inferInstanceAs (Decidable ('$' ∉ v.name.toList))

theorem target_injective {b' : Binding} {v w : Variant} (hv : v.DollarFree) (hw : w.DollarFree)
    (h : (d.directive b v).target = (d.directive b' w).target) :
    d.generatedName b = d.generatedName b' ∧ v.name = w.name := by
  have dollar : "$".toList = ['$'] := rfl
  simp only [Declaration.directive, ← String.toList_inj, String.toList_append, dollar,
    List.append_assoc, List.singleton_append] at h
  obtain ⟨hn, hs⟩ := append_dollar_inj hv hw h
  rw [String.toList_inj] at hn hs
  refine ⟨?_, hs⟩
  cases hb : d.generatedName b
  cases hb' : d.generatedName b'
  simp_all

/-! ## All directives -/

/-- Variants that differ in their names have different targets below every binding, and so do
bindings that differ in the name they generate. -/
theorem targets_nodup (names : (d.bindings.map d.generatedName).Nodup)
    (distinct : (d.variants.map (·.name)).Nodup) (free : ∀ v ∈ d.variants, v.DollarFree) :
    ((d.bindings.flatMap fun b => d.variants.map (d.directive b)).map (·.target)).Nodup := by
  simp only [List.map_flatMap, List.map_map]
  refine List.nodup_flatMap.2 ⟨fun b _ => ?_, ?_⟩
  · rw [List.Nodup, List.pairwise_map] at distinct ⊢
    refine distinct.imp_of_mem fun {v w} hv hw hne ht => hne ?_
    exact (target_injective (free v hv) (free w hw) ht).2
  · refine (List.pairwise_map.1 names).imp fun {b b'} hne t ht ht' => hne ?_
    obtain ⟨v, hv, rfl⟩ := List.mem_map.1 ht
    obtain ⟨w, hw, he⟩ := List.mem_map.1 ht'
    exact (target_injective (free v hv) (free w hw) he.symm).1

/-- **Directives.** The directives of a generation are those of its hierarchies one after the other.
The hierarchy of a binding has one for every variant of the declaration, in order. If collisions are
rejected and variants are told apart by names without `$`, no two directives keep the same class. -/
theorem directives_aligned (h : s.process d = .generated g) :
    g.directives = g.hierarchies.flatMap Hierarchy.directives ∧
    List.Forall₂ (fun b h => h.name = d.generatedName b ∧
      h.variants.map (·.declaration.name) = d.variants.map (·.name) ∧
      h.directives = d.variants.map (d.directive b)) d.bindings g.hierarchies ∧
    (s.collisions = .reject → (d.variants.map (·.name)).Nodup →
      (∀ v ∈ d.variants, v.DollarFree) → (g.directives.map (·.target)).Nodup) := by
  obtain ⟨-, -, names, -, rfl⟩ := process_eq_generated_iff.1 h
  refine ⟨rfl, ?_, fun reject distinct free => ?_⟩
  · rw [Settings.generation, List.forall₂_map_right_iff, List.forall₂_same]
    exact fun b _ => ⟨rfl, names_realize b, directives_realize b⟩
  · have single := not_collides_iff_nodup.1 (names.resolve_left (by simp [reject]))
    simp only [Settings.generation, List.flatMap_map, directives_realize]
    exact targets_nodup single distinct free

/-- A class with a text, a list and an object below it, for two models. -/
def feed : Declaration where
  name := ⟨"app.Feed"⟩
  kind := .klass
  modifiers := [.isSealed]
  variants :=
    [{ name := "Entry"
       kind := .klass
       parameters :=
        [{ name := some "body", type := .placeholder, mutable := true },
         { name := none, type := .concrete ⟨"kotlin.List"⟩ [.concrete ⟨"app.Tag"⟩ [] true] true }] },
     { name := "End", kind := .object }]
  models := some
    [{ type := { path := ⟨"kotlin.Int"⟩, nullable := true } },
     { name := "poster", type := { path := ⟨"app.Image"⟩ } }]

theorem feed_aligned :
    ∃ g, ({} : Settings).process feed = .generated g ∧
      g.directives.map (·.target) = ["app.IntFeed$Entry", "app.IntFeed$End",
        "app.PosterFeed$Entry", "app.PosterFeed$End"] ∧
      g.directives.map (·.parameterTypes) =
        [["kotlin.Int", "kotlin.List"], [], ["app.Image", "kotlin.List"], []] ∧
      (g.directives.map (·.target)).Nodup := by
  let s : Settings := {}
  let b : Binding := ⟨none, { path := ⟨"kotlin.Int"⟩, nullable := true }⟩
  have single : s.NamesPass feed := .inr (not_collides_iff_nodup.2 (by decide +kernel))
  have clean : s.hierarchy feed b = .ok _ := rfl
  have h := process_of_hierarchy_eq_ok (by decide) (by decide) single clean
  exact ⟨_, h, by decide +kernel, by decide +kernel,
    (directives_aligned h).2.2 rfl (by decide) (by decide)⟩

end Concretize
