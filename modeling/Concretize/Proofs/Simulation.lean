import Concretize.Proofs.Pass

/-!
# Two passes side by side

The same outcomes are handed to two emitters whose states are related by `R`. If related emitters
answer every offer alike and stay related, so do the passes: the reports are equal and the final
states related (`Simulation.emitOutcomes`).

What "alike" means of two refusals is a parameter: a diagnostic carries the text of a refusal, so
emitters that keep their diagnostics need the same refusals, others only as many. `Within` bounds
the first pass. A relation may depend on where this pass will end, as long as all states on the way
there are known to lie within the same bound.
-/
namespace Concretize

variable {σ σ' : Type} [Emitter σ] [Emitter σ'] {d : Declaration}

/-- Offers and diagnostics preserve `R` as long as the first emitter stays within its bound. -/
structure Simulation (Within : σ → Prop) (Alike : GenerationError → GenerationError → Prop)
    (R : σ → σ' → Prop) : Prop where
  refl : ∀ x, Alike x x
  before_offer : ∀ (o : Offer) e, Within (o.make e).2 → Within e
  before_report : ∀ x e, Within (Emitter.report x e).2 → Within e
  offer : ∀ (o : Offer) e e', R e e' → Within (o.make e).2 →
    Option.Rel Alike (o.make e).1.refusal (o.make e').1.refusal ∧ R (o.make e).2 (o.make e').2
  report : ∀ (d : Declaration) x x' e e', Alike x x' → R e e' →
    R (Emitter.report (.ofError d x) e).2 (Emitter.report (.ofError d x') e').2

theorem isNone_eq_of_rel {α β : Type} {r : α → β → Prop} {a : Option α} {b : Option β}
    (h : Option.Rel r a b) : a.isNone = b.isNone := by
  cases h <;> rfl

namespace Simulation

variable {Within : σ → Prop} {Alike : GenerationError → GenerationError → Prop}
  {R : σ → σ' → Prop} (sim : Simulation Within Alike R) {e : σ} {e' : σ'}
include sim

/-- A pass that ends within the bound has been so all along. -/
theorem within_of_replays {e₁ : σ} {cs : List Call} (h : Replays e cs e₁) (within : Within e₁) :
    Within e := by
  induction h with
  | nil => exact within
  | offer o _ ih => exact sim.before_offer o _ (ih within)
  | report x _ ih => exact sim.before_report x _ (ih within)

theorem reportRefusal {x x' : Option GenerationError} (alike : Option.Rel Alike x x')
    (h : R e e') : R (reportRefusal d x e).emitter (reportRefusal d x' e').emitter := by
  cases alike with
  | none => exact h
  | some alike => exact sim.report d _ _ _ _ alike h

theorem offering (o : Offer) (h : R e e') (within : Within (d.offer o e).emitter) :
    (d.offer o e).value = (d.offer o e').value ∧
      R (d.offer o e).emitter (d.offer o e').emitter := by
  have told := (reportRefusal_makes d (o.make e).1.refusal (o.make e).2).replays
  obtain ⟨alike, related⟩ := sim.offer o e e' h (sim.within_of_replays told within)
  exact ⟨isNone_eq_of_rel alike, sim.reportRefusal alike related⟩

theorem offerHierarchies (hs : List Hierarchy) (h : R e e')
    (within : Within (offerHierarchies d hs e).emitter) :
    (offerHierarchies d hs e).value = (offerHierarchies d hs e').value ∧
      R (offerHierarchies d hs e).emitter (offerHierarchies d hs e').emitter := by
  induction hs generalizing e e' with
  | nil => exact ⟨rfl, h⟩
  | cons x hs ih =>
    obtain ⟨_, -, made⟩ := offerHierarchies_makes d hs (offerHierarchy d x e).emitter
    obtain ⟨value, related⟩ := sim.offering (.hierarchy x d.origin) h
      (sim.within_of_replays made.replays within)
    obtain ⟨values, related⟩ := ih related within
    rw [← offerHierarchy_eq, ← offerHierarchy_eq] at value values related
    simp only [Concretize.offerHierarchies, value, values]
    exact ⟨trivial, related⟩

theorem emitOutcome (outcome : Outcome) (h : R e e')
    (within : Within (emitOutcome d outcome e).emitter) :
    (emitOutcome d outcome e).value = (emitOutcome d outcome e').value ∧
      R (emitOutcome d outcome e).emitter (emitOutcome d outcome e').emitter := by
  cases outcome with
  | skipped => exact ⟨rfl, h⟩
  | failed x => exact ⟨rfl, sim.report d x x e e' (sim.refl x) h⟩
  | generated g =>
    obtain ⟨_, -, made⟩ := offer_makes d (.retention d.name g.directives d.origin)
      (Concretize.offerHierarchies d g.hierarchies e).emitter
    obtain ⟨values, related⟩ := sim.offerHierarchies g.hierarchies h
      (sim.within_of_replays made.replays within)
    obtain ⟨value, related⟩ := sim.offering (.retention d.name g.directives d.origin) related within
    rw [← offerRetention_eq, ← offerRetention_eq] at value related
    simp only [Concretize.emitOutcome, value, values]
    exact ⟨trivial, related⟩

/-- Related emitters lead to the same report and end related. -/
theorem emitOutcomes (outcomes : List (Declaration × Outcome)) (h : R e e')
    (within : Within (emitOutcomes outcomes e).emitter) :
    (emitOutcomes outcomes e).value = (emitOutcomes outcomes e').value ∧
      R (emitOutcomes outcomes e).emitter (emitOutcomes outcomes e').emitter := by
  induction outcomes generalizing e e' with
  | nil => exact ⟨rfl, h⟩
  | cons p outcomes ih =>
    obtain ⟨_, -, made⟩ := emitOutcomes_makes outcomes (Concretize.emitOutcome p.1 p.2 e).emitter
    obtain ⟨value, related⟩ := sim.emitOutcome p.2 h (sim.within_of_replays made.replays within)
    obtain ⟨values, related⟩ := ih related within
    simp only [Concretize.emitOutcomes, value, values]
    exact ⟨trivial, related⟩

end Simulation

end Concretize
