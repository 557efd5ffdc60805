import Concretize.Binding
import Mathlib.Data.List.Nodup

/-!
# Bindings of a declaration

`firstOccurrences` keeps every element once (`mem_firstOccurrences`, `firstOccurrences_nodup`), in
the order of the list (`firstOccurrences_ordered`), and gives for a second part of the list what
the first one has not (`firstOccurrences_append`).

A request is determined by the binding it stands for (`toBinding_toRequest`), so that removing
repeated requests removes repeated bindings: `bindings_nodup`. A declaration has no binding exactly
if it asks for no model: `bindings_eq_nil_iff`.
-/
namespace Concretize

/-! ## First occurrences -/

variable {α : Type} [DecidableEq α]

theorem mem_firstOccurrences {a : α} {l : List α} : a ∈ firstOccurrences l ↔ a ∈ l := by
  induction l with
  | nil => simp [firstOccurrences]
  | cons b l ih =>
    simp only [firstOccurrences, List.mem_cons, List.mem_filter, ih, decide_eq_true_eq]
    by_cases h : a = b <;> simp [h]

theorem firstOccurrences_nodup (l : List α) : (firstOccurrences l).Nodup := by
  induction l with
  | nil => exact List.nodup_nil
  | cons b l ih =>
    rw [firstOccurrences, List.nodup_cons]
    exact ⟨by simp, ih.filter _⟩

theorem firstOccurrences_append (xs ys : List α) :
    firstOccurrences (xs ++ ys) =
      firstOccurrences xs ++ (firstOccurrences ys).filter (· ∉ xs) := by
  induction xs with
  | nil => simp [firstOccurrences]
  | cons x xs ih =>
    simp only [List.cons_append, firstOccurrences, ih, List.filter_append, List.filter_filter,
      List.mem_cons, not_or, ← Bool.decide_and, ne_eq]

/-- What stands in the list already can be left out further on. -/
theorem firstOccurrences_repeated {a : α} {xs : List α} (h : a ∈ xs) (ys : List α) :
    firstOccurrences (xs ++ a :: ys) = firstOccurrences (xs ++ ys) := by
  rw [firstOccurrences_append, firstOccurrences_append, firstOccurrences,
    List.filter_cons_of_neg (by simpa using h), List.filter_filter]
  congr 1
  refine List.filter_congr fun b _ => ?_
  by_cases hb : b ∈ xs
  · simp [hb]
  · have ne : b ≠ a := fun e => hb (e ▸ h)
    simp [hb, ne]

theorem firstOccurrences_of_nodup {l : List α} (h : l.Nodup) : firstOccurrences l = l := by
  induction l with
  | nil => rfl
  | cons a l ih =>
    obtain ⟨fresh, rest⟩ := List.nodup_cons.1 h
    rw [firstOccurrences, ih rest, List.filter_eq_self.2]
    exact fun b hb => by simpa using ne_of_mem_of_not_mem hb fresh

/-- An injection keeps the place of every element. -/
theorem idxOf_map {β : Type} [DecidableEq β] {f : α → β} (hf : Function.Injective f) (l : List α)
    (a : α) : (l.map f).idxOf (f a) = l.idxOf a := by
  induction l with
  | nil => rfl
  | cons b l ih =>
    by_cases h : b = a
    · rw [h, List.map_cons, List.idxOf_cons_self, List.idxOf_cons_self]
    · rw [List.map_cons, List.idxOf_cons_ne _ (hf.ne h), List.idxOf_cons_ne _ h, ih]

/-- What is kept first occurs first. -/
theorem firstOccurrences_ordered (l : List α) :
    (firstOccurrences l).Pairwise fun a b => l.idxOf a < l.idxOf b := by
  induction l with
  | nil => exact .nil
  | cons c l ih =>
    have others {a : α} (h : a ∈ (firstOccurrences l).filter (· ≠ c)) :
        (c :: l).idxOf a = l.idxOf a + 1 := by
      have ne : a ≠ c := by simpa using (List.mem_filter.1 h).2
      exact List.idxOf_cons_ne l ne.symm
    refine List.pairwise_cons.2 ⟨fun a ha => ?_, (ih.filter _).imp_of_mem fun ha hb lt => ?_⟩
    · rw [List.idxOf_cons_self, others ha]
      exact Nat.succ_pos _
    · rw [others ha, others hb]
      exact Nat.succ_lt_succ lt

/-! ## Requests and bindings -/

/-- The request that stands for a binding. -/
def Binding.toRequest (b : Binding) : ModelRequest where
  name := b.displayName?.getD ""
  type := b.type

/-- An absent name and an empty one are the same request, so nothing is lost. -/
theorem toBinding_toRequest (r : ModelRequest) : r.toBinding.toRequest = r := by
  obtain ⟨name, type⟩ := r
  by_cases empty : name = "" <;>
    simp [ModelRequest.toBinding, Binding.toRequest, Binding.displayName?, empty, Option.filter]

theorem toBinding_injective : Function.Injective ModelRequest.toBinding :=
  Function.LeftInverse.injective toBinding_toRequest

theorem bindings_nodup (d : Declaration) : d.bindings.Nodup :=
  (firstOccurrences_nodup _).map toBinding_injective

theorem bindings_eq_nil_iff (d : Declaration) :
    d.bindings = [] ↔ d.models = none ∨ d.models = some [] := by
  unfold Declaration.bindings
  rcases d.models with _ | _ | ⟨r, rs⟩ <;> simp [firstOccurrences]

end Concretize
