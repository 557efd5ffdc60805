import Concretize.Proofs.Pass

/-!
# What a report says of refusals

A report counts the refused outputs of every declaration. The count is taken from what the emitter
answered, so a report without errors belongs to a run in which nothing was refused.

* `refusals_emitOutcomes`: the refusals that are reported are the refused offers of the run.
* `Run.Makes.accepted_eq_offers`: in a run without refused offers, all that is offered is accepted.
-/
namespace Concretize

variable {σ : Type} [Emitter σ] {d : Declaration}

/-! ## Refused steps -/

/-- Whether a step is an offer that was refused. -/
def Step.isRefused : Step → Bool
  | .emit _ _ accepted => !accepted
  | .emitRetention _ _ _ accepted => !accepted
  | _ => false

/-- The number of refused offers among steps. -/
def refusals (steps : List Step) : Nat := steps.countP Step.isRefused

/-- The number of refused outputs that a status reports. -/
def Status.refusals : Status → Nat
  | generated _ _ n => n
  | _ => 0

/-- The number of refused outputs of all declarations together. -/
def Report.refusals (r : Report) : Nat := r.entries.foldr (fun e n => e.status.refusals + n) 0

theorem refusals_append (steps steps' : List Step) :
    refusals (steps ++ steps') = refusals steps + refusals steps' :=
  List.countP_append

theorem refusals_events (events : List Event) : refusals (events.map .event) = 0 :=
  List.countP_eq_zero.2 fun step hs => by
    obtain ⟨x, -, rfl⟩ := List.mem_map.1 hs
    exact Bool.false_ne_true

theorem refusals_handOver (x : Diagnostic) (e : σ) : refusals (handOver x e).steps = 0 := by
  have events := refusals_events (Emitter.report x e).1
  rw [← events]
  exact List.countP_cons_of_neg Bool.false_ne_true

theorem refusals_reportRefusal (refusal : Option GenerationError) (e : σ) :
    refusals (reportRefusal d refusal e).steps = 0 := by
  cases refusal with
  | none => rfl
  | some x =>
    have told := refusals_handOver (.ofError d x) e
    rw [← told]
    exact List.countP_cons_of_neg Bool.false_ne_true

/-- An offer of either sort adds one refusal if it is refused. -/
theorem refusals_offer (d : Declaration) (o : Offer) (e : σ) :
    refusals (d.offer o e).steps = if (d.offer o e).value then 0 else 1 := by
  have told := refusals_reportRefusal (d := d) (o.make e).1.refusal (o.make e).2
  have first : refusals [(Call.offer o (o.make e).1.refusal).step] =
      if (o.make e).1.refusal.isNone then 0 else 1 := by
    cases o <;> cases (Offer.make _ e).1.refusal <;> rfl
  have steps : (d.offer o e).steps = [(Call.offer o (o.make e).1.refusal).step] ++
      ((o.make e).1.events.map .event ++
        (reportRefusal d (o.make e).1.refusal (o.make e).2).steps) := rfl
  rw [steps, refusals_append, refusals_append, refusals_events, told, first]
  rfl

/-! ## Reported refusals -/

theorem refusals_offerHierarchies (d : Declaration) (hs : List Hierarchy) (e : σ) :
    refusals (offerHierarchies d hs e).steps = (offerHierarchies d hs e).value.2 := by
  induction hs generalizing e with
  | nil => rfl
  | cons h hs ih =>
    have first := refusals_offer d (.hierarchy h d.origin) e
    rw [← offerHierarchy_eq] at first
    have others := ih (offerHierarchy d h e).emitter
    simp only [offerHierarchies, refusals_append, first, others]
    split <;> simp [Nat.add_comm]

theorem refusals_emitOutcome (d : Declaration) (outcome : Outcome) (e : σ) :
    refusals (emitOutcome d outcome e).steps = (emitOutcome d outcome e).value.refusals := by
  cases outcome with
  | skipped => rfl
  | failed x =>
    have told := refusals_handOver (.ofError d x) e
    simp only [emitOutcome, Status.refusals]
    rw [← told]
    exact List.countP_cons_of_neg Bool.false_ne_true
  | generated g =>
    have hierarchies := refusals_offerHierarchies d g.hierarchies e
    have retention := refusals_offer d (.retention d.name g.directives d.origin)
      (offerHierarchies d g.hierarchies e).emitter
    rw [← offerRetention_eq] at retention
    simp only [emitOutcome, refusals_append, hierarchies, retention, Status.refusals]
    split <;> rfl

/-- The refusals that are reported are the refused offers of the run. -/
theorem refusals_emitOutcomes (outcomes : List (Declaration × Outcome)) (e : σ) :
    refusals (emitOutcomes outcomes e).steps =
      (⟨(emitOutcomes outcomes e).value⟩ : Report).refusals := by
  induction outcomes generalizing e with
  | nil => rfl
  | cons p rest ih =>
    simp only [emitOutcomes, refusals_append, refusals_emitOutcome, ih, Report.refusals,
      List.foldr_cons]

theorem Report.refusals_eq_zero_iff {entries : List ReportEntry} :
    (⟨entries⟩ : Report).refusals = 0 ↔ ∀ e ∈ entries, e.status.refusals = 0 := by
  induction entries with
  | nil => simp [Report.refusals]
  | cons e entries ih =>
    rw [Report.refusals] at ih ⊢
    rw [List.foldr_cons, Nat.add_eq_zero_iff, ih, List.forall_mem_cons]

theorem refusals_eq_zero_of_not_isTroubled {status : Status} (h : status.isTroubled = false) :
    status.refusals = 0 := by
  cases status with
  | generated names directives n => simpa [Status.isTroubled, Status.refusals] using h
  | skipped => rfl
  | failed x => rfl

/-- Nothing was refused in a run that ends in a report without errors. -/
theorem refusals_eq_zero_of_not_hasErrors {outcomes : List (Declaration × Outcome)} {e : σ}
    (h : (⟨(emitOutcomes outcomes e).value⟩ : Report).hasErrors = false) :
    refusals (emitOutcomes outcomes e).steps = 0 := by
  rw [refusals_emitOutcomes, Report.refusals_eq_zero_iff]
  intro entry he
  rw [Report.hasErrors, List.any_eq_false] at h
  exact refusals_eq_zero_of_not_isTroubled (Bool.not_eq_true _ ▸ h entry he)

/-- In a run without refused offers, all that is offered is accepted. -/
theorem Run.Makes.accepted_eq_offers {α : Type} {r : Run σ α} {e : σ} {cs : List Call}
    (h : r.Makes e cs) (accepted : refusals r.steps = 0) :
    cs.filterMap Call.accepted? = cs.filterMap Call.offer? := by
  refine List.filterMap_congr fun c hc => ?_
  have made : c.step ∈ r.steps := by
    have listed : c.step ∈ cs.map Call.step := List.mem_map_of_mem hc
    rw [← h.calls] at listed
    exact (List.mem_filter.1 listed).1
  have answered := List.countP_eq_zero.1 accepted _ made
  rcases c with ⟨o, _ | x⟩ | x
  · rfl
  · cases o <;> exact absurd rfl answered
  · rfl

end Concretize
