import Concretize.Proofs.Collision
import Concretize.Proofs.Specialization

/-!
# Outcomes

What becomes of a declaration, for every declaration and all settings.

* `process_eq_failed_iff`, `process_eq_skipped_iff`, `process_eq_generated_iff`: the three kinds
  of outcome, each with the exact condition under which it arises. `Settings.FailsWith` ranks the
  failures.
-/
namespace Concretize

variable {s : Settings} {d : Declaration} {b : Binding}

/-! ## Hierarchies -/

/-- The hierarchy of a binding: every variant filled in, under the generated name. -/
def Settings.realize (s : Settings) (d : Declaration) (b : Binding) : Hierarchy :=
  d.instantiate b (d.generatedName b) (d.variants.map (Variant.fill b)) s.trigger

/-- The hierarchies of all bindings and their directives. -/
def Settings.generation (s : Settings) (d : Declaration) : Generation where
  hierarchies := d.bindings.map (s.realize d)
  directives := (d.bindings.map (s.realize d)).flatMap Hierarchy.directives

theorem hierarchy_eq_ok_iff {h : Hierarchy} :
    s.hierarchy d b = .ok h ↔
      (¬ ∃ e, d.FirstFault s.nested e) ∧ h = s.realize d b := by
  unfold Settings.hierarchy
  simp only [bind_eq_ok_iff, Declaration.specialize_eq_ok_iff, Declaration.exists_firstFault_iff,
    pure, Except.pure, Except.ok.injEq]
  constructor
  · rintro ⟨vs, ⟨hv, rfl⟩, rfl⟩
    exact ⟨hv, rfl⟩
  · rintro ⟨hv, rfl⟩
    exact ⟨_, ⟨hv, rfl⟩, rfl⟩

theorem hierarchy_eq_error_iff {e : GenerationError} :
    s.hierarchy d b = .error e ↔ d.FirstFault s.nested e := by
  unfold Settings.hierarchy
  simp [bind_eq_error_iff, Declaration.specialize_eq_error_iff, pure, Except.pure]

theorem mapM_hierarchy_eq_ok_iff (hb : d.bindings ≠ []) {hs : List Hierarchy} :
    d.bindings.mapM (s.hierarchy d) = .ok hs ↔
      (¬ ∃ e, d.FirstFault s.nested e) ∧ hs = d.bindings.map (s.realize d) := by
  rw [mapM_eq_ok_iff fun _ _ => hierarchy_eq_ok_iff]
  obtain ⟨b, hm⟩ := List.exists_mem_of_ne_nil _ hb
  have all : (∃ b ∈ d.bindings, ∃ e, d.FirstFault s.nested e) ↔ ∃ e, d.FirstFault s.nested e :=
    ⟨fun ⟨_, _, h⟩ => h, fun h => ⟨b, hm, h⟩⟩
  rw [all]

/-- A fault does not depend on the binding, so the first binding already fails with it. -/
theorem mapM_hierarchy_eq_error_iff (hb : d.bindings ≠ []) {e : GenerationError} :
    d.bindings.mapM (s.hierarchy d) = .error e ↔ d.FirstFault s.nested e := by
  rw [mapM_eq_error_iff fun _ _ => hierarchy_eq_error_iff]
  constructor
  · rintro ⟨_, _, _, he⟩
    exact he
  · intro he
    obtain ⟨b, hm⟩ := List.exists_mem_of_ne_nil _ hb
    have some : ∃ b ∈ d.bindings, ∃ e, d.FirstFault s.nested e := ⟨b, hm, e, he⟩
    obtain ⟨i, a, ha⟩ := exists_first_iff.2 some
    exact ⟨i, a, ha, he⟩

/-! ## Checks in order -/

theorem process_of_not_closed (h : ¬ d.IsClosed) :
    s.process d = .failed (.notClosed d.kind d.name) := by
  simp [Settings.process, Settings.generate?, Declaration.requireClosed, h, bind, Except.bind]

theorem process_of_bindings_eq_nil (h : d.IsClosed) (hb : d.bindings = []) :
    s.process d = .skipped := by
  simp [Settings.process, Settings.generate?, Declaration.requireClosed, h, hb, bind, Except.bind,
    pure, Except.pure]

theorem process_of_bindings_ne_nil (h : d.IsClosed) (hb : d.bindings ≠ []) :
    s.process d = match s.requireDistinctNames d d.bindings, d.bindings.mapM (s.hierarchy d) with
      | .error e, _ => .failed e
      | .ok (), .error e => .failed e
      | .ok (), .ok hs => .generated ⟨hs, hs.flatMap Hierarchy.directives⟩ := by
  simp only [Settings.process, Settings.generate?, Declaration.requireClosed, h, if_true, bind,
    Except.bind, List.isEmpty_iff, hb, if_false]
  cases s.requireDistinctNames d d.bindings with
  | error e => rfl
  | ok u => cases d.bindings.mapM (s.hierarchy d) <;> rfl

/-- The settings tolerate collisions, or there are none. -/
def Settings.NamesPass (s : Settings) (d : Declaration) : Prop :=
  s.collisions = .allow ∨ ∀ n, ¬ d.Collides n

/-- The failures of a declaration. Each one presumes that the checks before it passed. -/
inductive Settings.FailsWith (s : Settings) (d : Declaration) : GenerationError → Prop where
  | notClosed (h : ¬ d.IsClosed) : FailsWith s d (.notClosed d.kind d.name)
  | collision (h : d.IsClosed) (hs : s.collisions = .reject) {n : QualifiedName}
      (hn : d.LeastCollision n) :
      FailsWith s d (.nameCollision d.name n (d.bindings.filter (d.generatedName · = n)))
  | variant (h : d.IsClosed) (hb : d.bindings ≠ []) (hn : s.NamesPass d) {e : GenerationError}
      (he : d.FirstFault s.nested e) : FailsWith s d e

theorem bindings_ne_nil_of_collides {n : QualifiedName} (h : d.Collides n) : d.bindings ≠ [] := by
  obtain ⟨b, hb, -⟩ := h
  exact List.ne_nil_of_mem hb

theorem process_eq_failed_iff {e : GenerationError} :
    s.process d = .failed e ↔ s.FailsWith d e := by
  constructor
  · intro hp
    by_cases h : d.IsClosed
    · by_cases hb : d.bindings = []
      · rw [process_of_bindings_eq_nil h hb] at hp; cases hp
      rw [process_of_bindings_ne_nil h hb] at hp
      cases hq : s.requireDistinctNames d d.bindings with
      | error e' =>
        rw [hq] at hp; cases hp
        obtain ⟨hs, n, hn, rfl⟩ := requireDistinctNames_eq_error_iff.1 hq
        exact .collision h hs hn
      | ok u =>
        cases hm : d.bindings.mapM (s.hierarchy d) with
        | error e' =>
          rw [hq, hm] at hp; cases hp
          exact .variant h hb (requireDistinctNames_eq_ok_iff.1 hq)
            ((mapM_hierarchy_eq_error_iff hb).1 hm)
        | ok hs => rw [hq, hm] at hp; cases hp
    · rw [process_of_not_closed h] at hp; cases hp
      exact .notClosed h
  · intro hf
    cases hf with
    | notClosed h => exact process_of_not_closed h
    | collision h hs hn =>
      rw [process_of_bindings_ne_nil h (bindings_ne_nil_of_collides hn.1),
        requireDistinctNames_eq_error_iff.2 ⟨hs, _, hn, rfl⟩]
    | variant h hb hn he =>
      rw [process_of_bindings_ne_nil h hb, requireDistinctNames_eq_ok_iff.2 hn,
        (mapM_hierarchy_eq_error_iff hb).2 he]

theorem process_eq_skipped_iff : s.process d = .skipped ↔ d.IsClosed ∧ d.bindings = [] := by
  constructor
  · intro hp
    by_cases h : d.IsClosed
    · refine ⟨h, ?_⟩
      by_contra hb
      rw [process_of_bindings_ne_nil h hb] at hp
      split at hp <;> cases hp
    · rw [process_of_not_closed h] at hp; cases hp
  · rintro ⟨h, hb⟩
    exact process_of_bindings_eq_nil h hb

theorem process_eq_generated_iff {g : Generation} :
    s.process d = .generated g ↔
      d.IsClosed ∧ d.bindings ≠ [] ∧ s.NamesPass d ∧ (¬ ∃ e, d.FirstFault s.nested e) ∧
        g = s.generation d := by
  constructor
  · intro hp
    have h : d.IsClosed := by
      by_contra h
      rw [process_of_not_closed h] at hp; cases hp
    have hb : d.bindings ≠ [] := by
      intro hb
      rw [process_of_bindings_eq_nil h hb] at hp; cases hp
    rw [process_of_bindings_ne_nil h hb] at hp
    cases hq : s.requireDistinctNames d d.bindings with
    | error e => rw [hq] at hp; cases hp
    | ok u =>
      cases hm : d.bindings.mapM (s.hierarchy d) with
      | error e => rw [hq, hm] at hp; cases hp
      | ok hs =>
        rw [hq, hm] at hp; cases hp
        obtain ⟨hf, rfl⟩ := (mapM_hierarchy_eq_ok_iff hb).1 hm
        exact ⟨h, hb, requireDistinctNames_eq_ok_iff.1 hq, hf, rfl⟩
  · rintro ⟨h, hb, hn, hf, rfl⟩
    rw [process_of_bindings_ne_nil h hb, requireDistinctNames_eq_ok_iff.2 hn,
      (mapM_hierarchy_eq_ok_iff hb).2 ⟨hf, rfl⟩]
    rfl

/-- One binding that goes through takes all others with it. -/
theorem process_of_hierarchy_eq_ok {h : Hierarchy} (hd : d.IsClosed) (hb : b ∈ d.bindings)
    (hn : s.NamesPass d) (hh : s.hierarchy d b = .ok h) :
    s.process d = .generated (s.generation d) :=
  process_eq_generated_iff.2
    ⟨hd, List.ne_nil_of_mem hb, hn, (hierarchy_eq_ok_iff.1 hh).1, rfl⟩

/-- A single binding collides with no other. -/
theorem process_of_bindings_eq_singleton {h : Hierarchy} (hd : d.IsClosed) (hb : d.bindings = [b])
    (hh : s.hierarchy d b = .ok h) : s.process d = .generated (s.generation d) := by
  have names : s.NamesPass d := by
    refine .inr fun n ⟨x, hx, y, hy, hne, _⟩ => hne ?_
    rw [hb, List.mem_singleton] at hx hy
    rw [hx, hy]
  exact process_of_hierarchy_eq_ok hd (by simp [hb]) names hh

/-! ## Precedence -/

theorem declaration_of_faulty {v : Variant} {nested : NestedPolicy} {e : GenerationError}
    (h : v.Faulty d nested e) : e.declaration? = some d.name := by
  cases h <;> rfl

theorem declaration_of_failsWith {e : GenerationError} (h : s.FailsWith d e) :
    e.declaration? = some d.name := by
  cases h with
  | notClosed => rfl
  | collision => rfl
  | variant _ _ _ he =>
    obtain ⟨_, _, _, hv⟩ := he
    exact declaration_of_faulty hv

/-- **Precedence.** A declaration fails exactly with the first failure in the order closedness,
least colliding name, first faulty variant, and the error names the declaration; it is skipped
exactly if it is closed and asks for no model, and otherwise something is generated. -/
theorem process_precedence (s : Settings) (d : Declaration) :
    (∀ e, s.process d = .failed e ↔ s.FailsWith d e ∧ e.declaration? = some d.name) ∧
    (s.process d = .skipped ↔ d.IsClosed ∧ (d.models = none ∨ d.models = some [])) ∧
    ((∃ g, s.process d = .generated g) ↔
      d.IsClosed ∧ ¬ (d.models = none ∨ d.models = some []) ∧ s.NamesPass d ∧
        ∀ v ∈ d.variants, ∀ e, ¬ v.Faulty d s.nested e) := by
  refine ⟨fun e => ?_, ?_, ?_⟩
  · rw [process_eq_failed_iff]
    exact ⟨fun h => ⟨h, declaration_of_failsWith h⟩, fun h => h.1⟩
  · rw [process_eq_skipped_iff, bindings_eq_nil_iff]
  · simp only [process_eq_generated_iff, Declaration.exists_firstFault_iff, ← bindings_eq_nil_iff]
    constructor
    · rintro ⟨g, h, hb, hn, hv, -⟩
      exact ⟨h, hb, hn, fun v hm e he => hv ⟨v, hm, e, he⟩⟩
    · rintro ⟨h, hb, hn, hv⟩
      exact ⟨_, h, hb, hn, fun ⟨v, hm, e, he⟩ => hv v hm e he, rfl⟩

end Concretize
