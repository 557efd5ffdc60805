import Concretize.Proofs.Placeholder
import Concretize.Specialization

/-!
# Which variants can be specialized, and into what

Specialization has one result for each variant, and one error. `Variant.fill` is the result: the
placeholder replaced wherever it is the whole type of a parameter. `Variant.Faulty` is the error:
the shape is unsupported, or the first parameter that nests the placeholder is refused.

* `specialize_eq_ok_iff`, `specialize_eq_error_iff`: specialization succeeds exactly on variants
  without a fault, and a failure is that of the first faulty variant.

Faults do not mention the binding, so all bindings of a declaration fail alike or not at all.
-/
namespace Concretize

variable {d : Declaration} {v : Variant} {b : Binding} {nested : NestedPolicy}

/-! ## Traversals that stop at the first error -/

section Traversal
variable {α β ε : Type} {P : α → Prop} {l : List α}

/-- `First P l i a`: the first element of `l` with `P` is `a`, at position `i`. -/
inductive First (P : α → Prop) : List α → Nat → α → Prop where
  | here {a : α} {l : List α} : P a → First P (a :: l) 0 a
  | there {a b : α} {l : List α} {i : Nat} : ¬ P b → First P l i a → First P (b :: l) (i + 1) a

theorem First.holds {i : Nat} {a : α} (h : First P l i a) : P a := by
  induction h with
  | here h => exact h
  | there _ _ ih => exact ih

theorem exists_first_iff : (∃ i a, First P l i a) ↔ ∃ a ∈ l, P a := by
  constructor
  · rintro ⟨i, a, h⟩
    induction h with
    | here h => exact ⟨_, List.mem_cons_self, h⟩
    | there _ _ ih =>
      obtain ⟨x, hx, hp⟩ := ih
      exact ⟨x, List.mem_cons_of_mem _ hx, hp⟩
  · rintro ⟨a, ha, hp⟩
    induction l with
    | nil => cases ha
    | cons b l ih =>
      by_cases hb : P b
      · exact ⟨0, b, .here hb⟩
      · rcases List.mem_cons.1 ha with rfl | ha
        · exact absurd hp hb
        · obtain ⟨i, x, hx⟩ := ih ha
          exact ⟨i + 1, x, .there hb hx⟩

theorem bind_eq_ok_iff {x : Except ε α} {g : α → Except ε β} {b : β} :
    x >>= g = .ok b ↔ ∃ a, x = .ok a ∧ g a = .ok b := by
  cases x <;> simp [bind, Except.bind]

theorem bind_eq_error_iff {x : Except ε α} {g : α → Except ε β} {e : ε} :
    x >>= g = .error e ↔ x = .error e ∨ ∃ a, x = .ok a ∧ g a = .error e := by
  cases x <;> simp [bind, Except.bind]

variable {f : α → Except ε β}

/-- A traversal succeeds exactly on lists of elements on which its step does. -/
theorem mapM_eq_ok_iff {g : α → β} (hf : ∀ x y, f x = .ok y ↔ ¬ P x ∧ y = g x) {ys : List β} :
    l.mapM f = .ok ys ↔ (¬ ∃ x ∈ l, P x) ∧ ys = l.map g := by
  induction l generalizing ys with
  | nil => simp [pure, Except.pure, eq_comm]
  | cons a l ih =>
    simp only [List.mapM_cons, bind_eq_ok_iff, hf, ih, pure, Except.pure, Except.ok.injEq]
    constructor
    · rintro ⟨y, ⟨ha, rfl⟩, zs, ⟨hl, rfl⟩, rfl⟩
      exact ⟨by simpa using ⟨ha, by simpa using hl⟩, rfl⟩
    · rintro ⟨h, rfl⟩
      simp only [List.mem_cons, exists_eq_or_imp, not_or] at h
      exact ⟨_, ⟨h.1, rfl⟩, _, ⟨h.2, rfl⟩, rfl⟩

/-- A traversal fails with the error of the first element on which its step fails. -/
theorem mapM_eq_error_iff {Q : α → ε → Prop} (hf : ∀ x e, f x = .error e ↔ Q x e) {e : ε} :
    l.mapM f = .error e ↔ ∃ i a, First (fun x => ∃ e, Q x e) l i a ∧ Q a e := by
  induction l with
  | nil => simpa [pure, Except.pure] using fun i a (h : First _ [] i a) => nomatch h
  | cons a l ih =>
    rw [List.mapM_cons, bind_eq_error_iff, hf]
    constructor
    · rintro (ha | ⟨y, hy, h⟩)
      · exact ⟨0, a, .here ⟨e, ha⟩, ha⟩
      · have hl : l.mapM f = .error e := by simpa [bind_eq_error_iff, pure, Except.pure] using h
        obtain ⟨i, x, hx, hq⟩ := ih.1 hl
        exact ⟨i + 1, x, .there (fun ⟨e', he⟩ => by simp [(hf a e').2 he] at hy) hx, hq⟩
    · rintro ⟨i, x, hx | ⟨ha, hx⟩, hq⟩
      · exact .inl hq
      · cases hy : f a with
        | error e' => exact absurd ⟨e', (hf a e').1 hy⟩ ha
        | ok y => exact .inr ⟨y, rfl, by rw [ih.2 ⟨_, x, hx, hq⟩]; rfl⟩

end Traversal

/-! ## Replacing the placeholder -/

/-- The type itself, or the given one in place of the placeholder. -/
def TypeRef.fill (t : TypeName) : TypeRef → TypeRef
  | .placeholder => t.toRef
  | u => u

/-- The parameter with its type filled in; all else is kept. -/
def Parameter.fill (b : Binding) (p : Parameter) : Parameter :=
  { p with type := p.type.fill b.type }

/-- The variant with all its parameters filled in; all else is kept. -/
def Variant.fill (b : Binding) (v : Variant) : Variant :=
  { v with parameters := v.parameters.map (Parameter.fill b) }

theorem fill_of_ne {t : TypeName} {u : TypeRef} (h : u ≠ .placeholder) : u.fill t = u := by
  cases u with
  | placeholder => exact absurd rfl h
  | concrete path arguments nullable => rfl

/-- What is filled in mentions the placeholder if the given type does, and the rest if it did. -/
theorem mentions_fill {t : TypeName} {u : TypeRef} :
    (u.fill t).Mentions ↔ (u = .placeholder ∧ t.toRef.Nests) ∨ u.Nests := by
  cases u with
  | placeholder =>
    rw [TypeRef.fill, TypeRef.mentions_toRef]
    simp [TypeRef.Nests]
  | concrete path arguments nullable => simp [TypeRef.fill, TypeRef.Nests]

/-! ## One parameter -/

/-- The parameter nests the placeholder, and the settings do not allow that. -/
def Parameter.Refused (nested : NestedPolicy) (p : Parameter) : Prop :=
  nested = .reject ∧ p.type.Nests

/-- The error of a refused parameter at a position of the constructor. -/
def Parameter.refusal (d : Declaration) (v : Variant) (p : Parameter) (index : Nat) :
    GenerationError :=
  .nestedPlaceholder d.name v.name (p.displayName index) p.type

theorem Parameter.specialize_of_refused {p : Parameter} {index : Nat} (h : p.Refused nested) :
    p.specialize d v b nested index = .error (p.refusal d v index) := by
  obtain ⟨rfl, hp⟩ := h
  have hn := (TypeRef.nestsPlaceholder_iff _).2 hp
  unfold Parameter.specialize
  rw [if_neg (by rw [TypeRef.isPlaceholder_iff]; exact hp.1), if_pos (by simp [hn])]
  rfl

theorem Parameter.specialize_of_not_refused {p : Parameter} {index : Nat}
    (h : ¬ p.Refused nested) : p.specialize d v b nested index = .ok (p.fill b) := by
  unfold Parameter.specialize
  by_cases hp : p.type = .placeholder
  · rw [if_pos ((TypeRef.isPlaceholder_iff _).2 hp)]
    simp [Parameter.fill, hp, TypeRef.fill]
  · rw [if_neg (by rwa [TypeRef.isPlaceholder_iff])]
    have hn : ¬ (p.type.nestsPlaceholder && nested = .reject) := by
      simpa [TypeRef.nestsPlaceholder_iff, Parameter.Refused, and_comm] using h
    simp only [if_neg hn, Parameter.fill, fill_of_ne hp]

theorem specializeParameters_eq_ok_iff {ps qs : List Parameter} {index : Nat} :
    v.specializeParameters d b nested ps index = .ok qs ↔
      (¬ ∃ p ∈ ps, p.Refused nested) ∧ qs = ps.map (Parameter.fill b) := by
  induction ps generalizing qs index with
  | nil => simp [Variant.specializeParameters, eq_comm]
  | cons p ps ih =>
    rw [Variant.specializeParameters]
    by_cases hp : p.Refused nested
    · rw [Parameter.specialize_of_refused hp]
      simp [bind, Except.bind, hp]
    · rw [Parameter.specialize_of_not_refused hp]
      simp only [bind_eq_ok_iff, ih, pure, Except.pure, Except.ok.injEq, List.mem_cons,
        exists_eq_or_imp, hp, false_or, List.map_cons]
      constructor
      · rintro ⟨_, rfl, _, ⟨hn, rfl⟩, rfl⟩
        exact ⟨hn, rfl⟩
      · rintro ⟨hn, rfl⟩
        exact ⟨_, rfl, _, ⟨hn, rfl⟩, rfl⟩

theorem specializeParameters_eq_error_iff {ps : List Parameter} {index : Nat}
    {e : GenerationError} :
    v.specializeParameters d b nested ps index = .error e ↔
      ∃ i p, First (Parameter.Refused nested) ps i p ∧ e = p.refusal d v (index + i) := by
  induction ps generalizing index with
  | nil =>
    simpa [Variant.specializeParameters] using fun i p (h : First _ [] i p) => nomatch h
  | cons p ps ih =>
    rw [Variant.specializeParameters]
    by_cases hp : p.Refused nested
    · rw [Parameter.specialize_of_refused hp]
      constructor
      · intro h; cases h; exact ⟨0, p, .here hp, rfl⟩
      · rintro ⟨i, q, _ | ⟨hn, -⟩, rfl⟩
        · rfl
        · exact absurd hp hn
    · rw [Parameter.specialize_of_not_refused hp]
      simp only [bind_eq_error_iff, ih, pure, Except.pure, reduceCtorEq, and_false, exists_false,
        or_false, false_or, Except.ok.injEq, exists_eq_left']
      constructor
      · rintro ⟨i, q, hq, rfl⟩
        exact ⟨i + 1, q, .there hp hq, by rw [Nat.add_right_comm, Nat.add_assoc]⟩
      · rintro ⟨i, q, hn | ⟨-, hq⟩, rfl⟩
        · exact absurd hn hp
        · exact ⟨_, q, hq, by rw [Nat.add_right_comm, Nat.add_assoc]⟩

/-! ## One variant -/

/-- What is wrong with a variant: its kind, parameters where there may be none, or a class whose
first refused parameter is at some position. -/
inductive Variant.Faulty (d : Declaration) (nested : NestedPolicy) (v : Variant) :
    GenerationError → Prop where
  | wrongKind (h : v.kind ≠ .klass ∧ v.kind ≠ .interface ∧ v.kind ≠ .object) :
      Faulty d nested v (.unsupportedShape d.name v.name (.wrongKind v.kind))
  | withParameters (h : v.kind = .object ∨ v.kind = .interface) (hp : v.parameters ≠ []) :
      Faulty d nested v
        (.unsupportedShape d.name v.name (.withParameters v.kind v.parameters.length))
  | refused (h : v.kind = .klass) {i : Nat} {p : Parameter}
      (hp : First (Parameter.Refused nested) v.parameters i p) :
      Faulty d nested v (p.refusal d v i)

theorem Variant.specialize_eq_error_iff {e : GenerationError} :
    Variant.specialize d b nested v = .error e ↔ v.Faulty d nested e := by
  constructor
  · intro h
    unfold Variant.specialize at h
    split at h
    · next hk =>
      simp only [bind_eq_error_iff, specializeParameters_eq_error_iff, pure, Except.pure,
        reduceCtorEq, and_false, exists_false, or_false, Nat.zero_add] at h
      obtain ⟨i, p, hp, rfl⟩ := h
      exact .refused hk hp
    · next hk =>
      split at h
      · cases h
      · next hp => cases h; exact .withParameters (.inl hk) (by simpa using hp)
    · next hk =>
      split at h
      · cases h
      · next hp => cases h; exact .withParameters (.inr hk) (by simpa using hp)
    all_goals next hk => cases h; exact .wrongKind (by simp [hk])
  · intro h
    unfold Variant.specialize
    cases h with
    | wrongKind h => split <;> simp_all
    | withParameters h hp =>
      rcases h with h | h <;> simp [h, hp]
    | refused h hp =>
      simp only [h, bind_eq_error_iff]
      exact .inl (specializeParameters_eq_error_iff.2 ⟨_, _, hp, by rw [Nat.zero_add]⟩)

theorem Variant.fill_of_nil (h : v.parameters = []) : v.fill b = v := by
  cases v; simp_all [Variant.fill]

theorem Variant.eq_fill_of_specialize {w : Variant} (h : Variant.specialize d b nested v = .ok w) :
    w = v.fill b := by
  unfold Variant.specialize at h
  split at h
  · simp only [bind_eq_ok_iff, specializeParameters_eq_ok_iff, pure, Except.pure,
      Except.ok.injEq] at h
    obtain ⟨ps, ⟨-, rfl⟩, rfl⟩ := h
    rfl
  all_goals first
    | cases h
    | split at h
      · next hp => cases h; exact (Variant.fill_of_nil (by simpa using hp)).symm
      · cases h

theorem Variant.specialize_eq_ok_iff {w : Variant} :
    Variant.specialize d b nested v = .ok w ↔
      (¬ ∃ e, v.Faulty d nested e) ∧ w = v.fill b := by
  simp only [← Variant.specialize_eq_error_iff (b := b)]
  cases h : Variant.specialize d b nested v with
  | error e => simp
  | ok u => simp [Variant.eq_fill_of_specialize h, eq_comm]

/-! ## All variants -/

/-- The error of the first faulty variant of the declaration. -/
def Declaration.FirstFault (d : Declaration) (nested : NestedPolicy) (e : GenerationError) : Prop :=
  ∃ i v, First (fun v => ∃ e, v.Faulty d nested e) d.variants i v ∧ v.Faulty d nested e

theorem Declaration.specialize_eq_ok_iff {vs : List Variant} :
    d.specialize b nested = .ok vs ↔
      (¬ ∃ v ∈ d.variants, ∃ e, v.Faulty d nested e) ∧ vs = d.variants.map (Variant.fill b) :=
  mapM_eq_ok_iff fun _ _ => Variant.specialize_eq_ok_iff

theorem Declaration.specialize_eq_error_iff {e : GenerationError} :
    d.specialize b nested = .error e ↔ d.FirstFault nested e :=
  mapM_eq_error_iff fun _ _ => Variant.specialize_eq_error_iff

theorem Declaration.exists_firstFault_iff :
    (∃ e, d.FirstFault nested e) ↔ ∃ v ∈ d.variants, ∃ e, v.Faulty d nested e := by
  rw [← exists_first_iff]
  constructor
  · rintro ⟨e, i, v, hv, -⟩
    exact ⟨i, v, hv⟩
  · rintro ⟨i, v, hv⟩
    obtain ⟨e, he⟩ := hv.holds
    exact ⟨e, i, v, hv, he⟩

end Concretize
