import Concretize.Outcome
import Concretize.Proofs.Binding

/-!
# Colliding names

`Declaration.collisions` groups a list of bindings by generated name. It is sorted by name without
repetition (`collisions_sorted`) and holds exactly the names that two list positions share, each
with all its bindings (`mem_collisions`).

On the bindings of a declaration, which are distinct, a name is listed exactly if two different
bindings generate it (`Declaration.Collides`), and the first one listed is the least
(`requireDistinctNames_eq_error_iff`).
-/
namespace Concretize

variable {d : Declaration} {s : Settings}

/-- Two bindings of the declaration generate the name. -/
def Declaration.Collides (d : Declaration) (n : QualifiedName) : Prop :=
  ∃ b ∈ d.bindings, ∃ b' ∈ d.bindings, b ≠ b' ∧ d.generatedName b = n ∧ d.generatedName b' = n

/-- The colliding name that comes first in code-point order. -/
def Declaration.LeastCollision (d : Declaration) (n : QualifiedName) : Prop :=
  d.Collides n ∧ ∀ m, d.Collides m → n.text ≤ m.text

/-! ## The list of collisions -/

theorem nameLe_trans (a b c : QualifiedName) (hab : nameLe a b) (hbc : nameLe b c) :
    nameLe a c := by
  simp only [nameLe, decide_eq_true_eq] at *
  exact Std.le_trans hab hbc

theorem nameLe_total (a b : QualifiedName) : nameLe a b || nameLe b a := by
  simpa [nameLe] using Std.le_total

theorem text_lt_of_nameLe {a b : QualifiedName} (h : nameLe a b) (hne : a ≠ b) :
    a.text < b.text := by
  simp only [nameLe, decide_eq_true_eq] at h
  refine Std.lt_of_le_of_ne h fun ht => hne ?_
  cases a; cases b; simp_all

/-- The names are in strictly increasing order. -/
theorem collisions_sorted (d : Declaration) (bs : List Binding) :
    (d.collisions bs).Pairwise fun a b => a.name.text < b.name.text := by
  unfold Declaration.collisions
  refine List.Pairwise.filter _ (List.pairwise_map.2 ?_)
  have sorted := List.pairwise_mergeSort nameLe_trans nameLe_total
    (firstOccurrences (bs.map d.generatedName))
  have nodup := (List.mergeSort_perm (firstOccurrences (bs.map d.generatedName)) nameLe).nodup_iff.2
    (firstOccurrences_nodup _)
  exact sorted.imp₂ (fun _ _ => text_lt_of_nameLe) nodup

/-- A group holds all bindings of its name, and more than one. -/
theorem mem_collisions {bs : List Binding} {c : Collision} :
    c ∈ d.collisions bs ↔
      c.bindings = bs.filter (d.generatedName · = c.name) ∧ 1 < c.bindings.length := by
  simp only [Declaration.collisions, List.mem_filter, List.mem_map, List.mem_mergeSort,
    mem_firstOccurrences, decide_eq_true_eq]
  constructor
  · rintro ⟨⟨n, -, rfl⟩, h⟩
    exact ⟨rfl, h⟩
  · rintro ⟨hb, h⟩
    obtain ⟨b, hm⟩ := List.exists_mem_of_length_pos (Nat.lt_of_succ_lt h)
    rw [hb, List.mem_filter, decide_eq_true_eq] at hm
    exact ⟨⟨c.name, ⟨b, hm.1, hm.2⟩, by cases c; simp_all⟩, h⟩

/-! ## Collisions among distinct bindings -/

theorem one_lt_length_iff {α : Type} {l : List α} (h : l.Nodup) :
    1 < l.length ↔ ∃ a ∈ l, ∃ b ∈ l, a ≠ b := by
  match l, h with
  | [], _ => simp
  | [a], _ => simp
  | a :: b :: l, h =>
    have hab : a ≠ b := by intro e; simp [e] at h
    exact ⟨fun _ => ⟨a, by simp, b, by simp, hab⟩, fun _ => by simp⟩

theorem collides_iff {n : QualifiedName} :
    d.Collides n ↔ 1 < (d.bindings.filter (d.generatedName · = n)).length := by
  rw [one_lt_length_iff ((bindings_nodup d).filter _)]
  simp only [Declaration.Collides, List.mem_filter, decide_eq_true_eq]
  constructor
  · rintro ⟨b, hb, b', hb', hne, hn, hn'⟩
    exact ⟨b, ⟨hb, hn⟩, b', ⟨hb', hn'⟩, hne⟩
  · rintro ⟨b, ⟨hb, hn⟩, b', ⟨hb', hn'⟩, hne⟩
    exact ⟨b, hb, b', hb', hne, hn, hn'⟩

theorem collides_of_mem {c : Collision} (h : c ∈ d.collisions d.bindings) : d.Collides c.name := by
  obtain ⟨hb, hl⟩ := mem_collisions.1 h
  rw [collides_iff, ← hb]
  exact hl

theorem mem_of_collides {n : QualifiedName} (h : d.Collides n) :
    ⟨n, d.bindings.filter (d.generatedName · = n)⟩ ∈ d.collisions d.bindings :=
  mem_collisions.2 ⟨rfl, collides_iff.1 h⟩

theorem collisions_eq_nil_iff : d.collisions d.bindings = [] ↔ ∀ n, ¬ d.Collides n := by
  constructor
  · intro h n hn
    simpa [h] using mem_of_collides hn
  · intro h
    exact List.eq_nil_iff_forall_not_mem.2 fun c hc => h c.name (collides_of_mem hc)

/-- There is no collision exactly if every binding generates a name of its own. -/
theorem not_collides_iff_nodup :
    (∀ n, ¬ d.Collides n) ↔ (d.bindings.map d.generatedName).Nodup := by
  constructor
  · intro h
    refine List.pairwise_map.2 ((bindings_nodup d).imp_of_mem fun {b b'} hb hb' hne hn => ?_)
    exact h _ ⟨b, hb, b', hb', hne, rfl, hn.symm⟩
  · rintro h n ⟨b, hb, b', hb', hne, hn, hn'⟩
    exact hne (List.inj_on_of_nodup_map h hb hb' (hn.trans hn'.symm))

/-- The first collision listed is the least one. -/
theorem leastCollision_head {c : Collision} {cs : List Collision}
    (h : d.collisions d.bindings = c :: cs) : d.LeastCollision c.name := by
  refine ⟨collides_of_mem (h ▸ List.mem_cons_self), fun m hm => ?_⟩
  have sorted := collisions_sorted d d.bindings
  have mem := mem_of_collides hm
  rw [h] at sorted mem
  rcases List.mem_cons.1 mem with e | mem
  · cases e; exact Std.le_refl _
  · exact Std.le_of_lt (List.rel_of_pairwise_cons sorted mem)

theorem leastCollision_unique {n m : QualifiedName} (hn : d.LeastCollision n)
    (hm : d.LeastCollision m) : n = m := by
  have h : n.text = m.text := Std.le_antisymm (hn.2 m hm.1) (hm.2 n hn.1)
  cases n; cases m; simp_all

/-! ## The check on names -/

/-- Names are rejected for the least collision, with all bindings that share it. -/
theorem requireDistinctNames_eq_error_iff {e : GenerationError} :
    s.requireDistinctNames d d.bindings = .error e ↔
      s.collisions = .reject ∧ ∃ n, d.LeastCollision n ∧
        e = .nameCollision d.name n (d.bindings.filter (d.generatedName · = n)) := by
  unfold Settings.requireDistinctNames
  cases hs : s.collisions with
  | allow => simp
  | reject =>
    cases hc : d.collisions d.bindings with
    | nil => simp [Declaration.LeastCollision, collisions_eq_nil_iff.1 hc]
    | cons c cs =>
      have hb := (mem_collisions.1 (hc ▸ List.mem_cons_self : c ∈ d.collisions d.bindings)).1
      have least := leastCollision_head hc
      simp only [Except.error.injEq, true_and, hb]
      constructor
      · rintro rfl
        exact ⟨c.name, least, rfl⟩
      · rintro ⟨n, hn, rfl⟩
        rw [leastCollision_unique hn least]

/-- Names pass if collisions are tolerated or there are none. -/
theorem requireDistinctNames_eq_ok_iff :
    s.requireDistinctNames d d.bindings = .ok () ↔
      s.collisions = .allow ∨ ∀ n, ¬ d.Collides n := by
  unfold Settings.requireDistinctNames
  rw [← collisions_eq_nil_iff]
  cases s.collisions <;> cases d.collisions d.bindings <;> simp

end Concretize
