import Concretize.Outcome
import Concretize.Proofs.Binding

/-!
# Requests that count

A declaration is told which models are asked for as a list of requests, and only the first of equal
requests counts.

* `Binding.Listed`: what the bindings of a list of requests are; there is one such list
  (`Binding.Listed.unique`).
* `process_asking`: what becomes of a declaration depends on its requests by way of its bindings
  only.
* `requests_counted`: so a request that is repeated changes nothing, and neither does asking for
  the bindings themselves.
-/
namespace Concretize

variable {rs : List ModelRequest} {bs : List Binding}

/-! ## The bindings of requests -/

/-- The list holds the bindings that the requests stand for, each of them once, in the order in
which they are asked for first. -/
structure Binding.Listed (rs : List ModelRequest) (bs : List Binding) : Prop where
  nodup : bs.Nodup
  mem_iff : ∀ b, b ∈ bs ↔ ∃ r ∈ rs, r.toBinding = b
  ordered : bs.Pairwise fun b b' =>
    (rs.map ModelRequest.toBinding).idxOf b < (rs.map ModelRequest.toBinding).idxOf b'

theorem listed_firstOccurrences (rs : List ModelRequest) :
    Binding.Listed rs ((firstOccurrences rs).map ModelRequest.toBinding) where
  nodup := (firstOccurrences_nodup rs).map toBinding_injective
  mem_iff b := by simp only [List.mem_map, mem_firstOccurrences]
  ordered := by
    simp only [List.pairwise_map, idxOf_map toBinding_injective]
    exact firstOccurrences_ordered rs

/-- Two lists of the same elements in the same strict order are equal. -/
theorem Binding.Listed.unique {bs' : List Binding} (h : Listed rs bs) (h' : Listed rs bs') :
    bs = bs' := by
  have perm : bs.Perm bs' :=
    (List.perm_ext_iff_of_nodup h.nodup h'.nodup).2 fun b => (h.mem_iff b).trans (h'.mem_iff b).symm
  exact perm.eq_of_pairwise (fun _ _ _ _ lt gt => absurd lt (Nat.lt_asymm gt)) h.ordered h'.ordered

/-! ## Asking for models -/

/-- The declaration with other requests. -/
def Declaration.asking (d : Declaration) (rs : List ModelRequest) : Declaration :=
  { d with models := some rs }

section Asking
variable {s : Settings} {d : Declaration}

theorem bindings_asking :
    (d.asking rs).bindings = (firstOccurrences rs).map ModelRequest.toBinding := rfl

@[simp] theorem requireClosed_asking : (d.asking rs).requireClosed = d.requireClosed := rfl

@[simp] theorem requireDistinctNames_asking :
    s.requireDistinctNames (d.asking rs) bs = s.requireDistinctNames d bs := rfl

theorem specializeParameters_asking {v : Variant} {b : Binding} {policy : NestedPolicy}
    (ps : List Parameter) (index : Nat) :
    v.specializeParameters (d.asking rs) b policy ps index =
      v.specializeParameters d b policy ps index := by
  induction ps generalizing index with
  | nil => rfl
  | cons p ps ih =>
    rw [Variant.specializeParameters, Variant.specializeParameters, ih]
    rfl

theorem specialize_asking :
    Variant.specialize (d.asking rs) = Variant.specialize d := by
  funext b policy v
  simp only [Variant.specialize, specializeParameters_asking]
  rfl

@[simp] theorem hierarchy_asking : s.hierarchy (d.asking rs) = s.hierarchy d := by
  funext b
  simp only [Settings.hierarchy, Declaration.specialize, specialize_asking]
  rfl

/-- Requests are seen as bindings only. -/
theorem process_asking {rs' : List ModelRequest}
    (same : (d.asking rs).bindings = (d.asking rs').bindings) :
    s.process (d.asking rs) = s.process (d.asking rs') := by
  simp only [Settings.process, Settings.generate?, requireClosed_asking, same,
    requireDistinctNames_asking, hierarchy_asking]

end Asking

/-- **Requests.** A declaration has the bindings that its requests stand for, each of them once, in
the order in which they are asked for first. Asking for these bindings gives them again. A request
that is repeated changes neither the bindings nor what becomes of the declaration. -/
theorem requests_counted (d : Declaration) :
    (∀ bs, Binding.Listed (d.models.getD []) bs ↔ bs = d.bindings) ∧
    (d.asking (d.bindings.map Binding.toRequest)).bindings = d.bindings ∧
    ∀ (xs ys zs : List ModelRequest) (r : ModelRequest),
      let once := d.asking (xs ++ r :: ys ++ zs)
      let again := d.asking (xs ++ r :: ys ++ r :: zs)
      again.bindings = once.bindings ∧ ∀ s : Settings, s.process again = s.process once := by
  refine ⟨fun bs => ⟨fun h => h.unique (listed_firstOccurrences _), ?_⟩, ?_, ?_⟩
  · rintro rfl
    exact listed_firstOccurrences _
  · have requests : d.bindings.map Binding.toRequest = firstOccurrences (d.models.getD []) := by
      simp [Declaration.bindings, Function.comp_def, toBinding_toRequest]
    rw [bindings_asking, requests, firstOccurrences_of_nodup (firstOccurrences_nodup _)]
    rfl
  · intro xs ys zs r once again
    have same : again.bindings = once.bindings := by
      rw [bindings_asking, bindings_asking, firstOccurrences_repeated (by simp)]
    exact ⟨same, fun s => process_asking same⟩

end Concretize
