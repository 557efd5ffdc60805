import Concretize.Proofs.Pass

/-!
# What the workers cannot change

The number of workers decides whether declarations are worked off one after the other or at the same
time, and then in any order. An emitter never learns of it.

* `process_withWorkers`: what becomes of a declaration does not depend on the workers.
* `emitted_withWorkers`: whoever works the declarations off, and in whatever order, the emitter is
  handed the same outcomes.
* `workers_unseen`: so every pass makes the calls of the sequential pass, with the same answers, and
  ends with its report.
-/
namespace Concretize

variable {σ : Type} [Emitter σ]

/-- The settings with other workers. -/
def Settings.withWorkers (s : Settings) (workers : Workers) : Settings := { s with workers }

section Workers
variable (s : Settings) (workers : Workers)

@[simp] theorem requireDistinctNames_withWorkers (d : Declaration) (bindings : List Binding) :
    (s.withWorkers workers).requireDistinctNames d bindings = s.requireDistinctNames d bindings :=
  rfl

@[simp] theorem hierarchy_withWorkers (d : Declaration) :
    (s.withWorkers workers).hierarchy d = s.hierarchy d := rfl

/-- Deciding an outcome shares nothing with the workers: it reads the other settings and the
declaration. -/
theorem process_withWorkers (d : Declaration) :
    (s.withWorkers workers).process d = s.process d := by
  simp only [Settings.process, Settings.generate?, requireDistinctNames_withWorkers,
    hierarchy_withWorkers]

variable {schedule : List Nat} {ds : List Declaration}
  (h : schedule.Perm (List.range ds.length))
include h

/-- The report and the emitter of a pass are those of handing over every declaration's own outcome
in input order. -/
theorem emitted_withWorkers (e : σ) :
    ((s.withWorkers workers).runScheduled schedule ds e).value =
        ⟨(emitOutcomes (ds.map fun d => (d, s.process d)) e).value⟩ ∧
      ((s.withWorkers workers).runScheduled schedule ds e).emitter =
        (emitOutcomes (ds.map fun d => (d, s.process d)) e).emitter := by
  have emitted := runScheduled_eq (s := s.withWorkers workers) (e := e) h
  simp only [process_withWorkers] at emitted
  exact emitted

/-- So are its calls. -/
theorem makes_withWorkers {e : σ} {cs : List Call}
    (made : (emitOutcomes (ds.map fun d => (d, s.process d)) e).Makes e cs) :
    ((s.withWorkers workers).runScheduled schedule ds e).Makes e cs := by
  refine makes_runScheduled h ?_
  simp only [process_withWorkers]
  exact made

end Workers

/-- **Workers.** The calls of the sequential pass, with the answers they met, are those of every
pass whose workers take every declaration once, however many there are and in whatever order they
finish. The report is the same, and so is the emitter afterwards. -/
theorem workers_unseen (s : Settings) (ds : List Declaration) (e : σ) :
    let sequential := (s.withWorkers .sequential).run ds e
    ∃ cs, sequential.Makes e cs ∧
      ∀ (workers : Workers) (schedule : List Nat), schedule.Perm (List.range ds.length) →
        let concurrent := (s.withWorkers workers).runScheduled schedule ds e
        concurrent.Makes e cs ∧
          concurrent.steps.filter Step.isCall = sequential.steps.filter Step.isCall ∧
          concurrent.value = sequential.value ∧ concurrent.emitter = sequential.emitter := by
  intro sequential
  obtain ⟨segments, -, made⟩ := emitOutcomes_makes (ds.map fun d => (d, s.process d)) e
  have inOrder : (List.range ds.length).Perm (List.range ds.length) := .refl _
  have first : sequential.Makes e segments.flatten :=
    makes_withWorkers s .sequential inOrder made
  obtain ⟨value, emitter⟩ := emitted_withWorkers s .sequential inOrder e
  refine ⟨segments.flatten, first, fun workers schedule h => ?_⟩
  intro concurrent
  have other : concurrent.Makes e segments.flatten := makes_withWorkers s workers h made
  obtain ⟨value', emitter'⟩ := emitted_withWorkers s workers h e
  exact ⟨other, other.calls.trans first.calls.symm, value'.trans value.symm,
    emitter'.trans emitter.symm⟩

/-- Three workers, of whom the second declaration is finished first. -/
theorem twoAndNone_unseen :
    [1, 0].Perm (List.range twoAndNone.length) ∧
      ((lax.withWorkers (.count 3)).runScheduled [1, 0] twoAndNone ({} : Barred)).value =
        ((lax.withWorkers .sequential).run twoAndNone ({} : Barred)).value ∧
      ((lax.withWorkers (.count 3)).runScheduled [1, 0] twoAndNone
        ({} : Barred)).emitter.told.length = 3 := by
  have order : [1, 0].Perm (List.range twoAndNone.length) := by decide
  obtain ⟨cs, -, concurrent⟩ := workers_unseen lax twoAndNone ({} : Barred)
  obtain ⟨-, -, value, -⟩ := concurrent (.count 3) [1, 0] order
  exact ⟨order, value, by decide⟩

end Concretize
