import Concretize.Dependencies
import Concretize.Proofs.Accounts
import Concretize.Proofs.Output
import Concretize.Proofs.Simulation

/-!
# A declaration that yields nothing leaves nothing

What becomes of a declaration does not depend on its neighbours, and one that fails or is skipped
offers no output. So a pass with such a declaration writes what the pass without it writes, whichever
outputs clash and whichever writes fail; only its own diagnostic is added, where its turn comes.

* `emitOutcomes_append`: a pass over two lists is one after the other.
* `blind_simulation`: an output answers without looking at the diagnostics it keeps.
* `runScheduled_isolates`: with and without the declaration.
-/
namespace Concretize

variable {s : Settings} {d : Declaration}

/-! ## Lists one after the other -/

theorem emitOutcomes_append {σ : Type} [Emitter σ] (xs ys : List (Declaration × Outcome)) (e : σ) :
    (emitOutcomes (xs ++ ys) e).value =
        (emitOutcomes xs e).value ++ (emitOutcomes ys (emitOutcomes xs e).emitter).value ∧
      (emitOutcomes (xs ++ ys) e).emitter =
        (emitOutcomes ys (emitOutcomes xs e).emitter).emitter := by
  induction xs generalizing e with
  | nil => exact ⟨rfl, rfl⟩
  | cons p xs ih =>
    obtain ⟨values, emitters⟩ := ih (emitOutcome p.1 p.2 e).emitter
    simp only [List.cons_append, emitOutcomes, values, emitters, and_self]

/-! ## Diagnostics -/

/-- The same output but for the diagnostics it keeps: since a time when these were `before` and
`before'`, the same ones were handed over. -/
def Output.AlikeSince (before before' : List Diagnostic) (o o' : Output) : Prop :=
  ∃ told, o.diagnostics = before ++ told ∧ o' = { o with diagnostics := before' ++ told }

theorem Output.AlikeSince.start (o : Output) (after : List Diagnostic) :
    Output.AlikeSince o.diagnostics (o.diagnostics ++ after) o
      { o with diagnostics := o.diagnostics ++ after } :=
  ⟨[], (List.append_nil _).symm, by rw [List.append_nil]⟩

/-- An output does not look at the diagnostics it keeps. -/
theorem make_withDiagnostics (a : Offer) (o : Output) (told : List Diagnostic) :
    (a.make { o with diagnostics := told }).1 = (a.make o).1 ∧
      (a.make { o with diagnostics := told }).2 = { (a.make o).2 with diagnostics := told } ∧
      (a.make o).2.diagnostics = o.diagnostics := by
  rw [make_eq_offer, make_eq_offer, Output.offer, Output.offer]
  have records : Output.has { o with diagnostics := told } (a.path o.layout) =
      o.has (a.path o.layout) := rfl
  simp only [records]
  cases o.has (a.path o.layout) with
  | true => exact ⟨rfl, rfl, rfl⟩
  | false =>
    rcases writeFile o.storage (o.root.join (a.path o.layout)) (a.text o.layout) with ⟨t, _ | e⟩ <;>
      exact ⟨rfl, rfl, rfl⟩

theorem blind_simulation (before before' : List Diagnostic) :
    Simulation (fun _ : Output => True) Eq (Output.AlikeSince before before') where
  refl _ := rfl
  before_offer _ _ _ := trivial
  before_report _ _ _ := trivial
  offer a o o' := by
    rintro ⟨told, kept, rfl⟩ -
    obtain ⟨reply, output, same⟩ := make_withDiagnostics a o (before' ++ told)
    rw [reply, output]
    exact ⟨by cases (a.make o).1.refusal <;> constructor; rfl, told, same.trans kept, rfl⟩
  report d x x' o o' := by
    rintro rfl ⟨told, kept, rfl⟩
    refine ⟨told ++ [.ofError d x], ?_, ?_⟩
    · simp [Emitter.report, kept]
    · simp [Emitter.report]

/-! ## With and without a declaration -/

/-- The diagnostics of an outcome that offers no output. -/
def Outcome.errors (d : Declaration) : Outcome → List Diagnostic
  | .failed e => [.ofError d e]
  | .skipped => []
  | .generated _ => []

/-- An outcome without output only adds its diagnostics. -/
theorem emitOutcome_barren {outcome : Outcome} (h : ∀ g, outcome ≠ .generated g) (o : Output) :
    (emitOutcome d outcome o).value = outcome.status d [] ∧
      (emitOutcome d outcome o).emitter =
        { o with diagnostics := o.diagnostics ++ outcome.errors d } := by
  cases outcome with
  | generated g => exact absurd rfl (h g)
  | skipped => simp [emitOutcome, Outcome.status, Outcome.errors]
  | failed e => exact ⟨rfl, rfl⟩

/-- What a pass over a list hands over and leaves behind when a declaration without output comes
between its two parts. -/
theorem emitOutcomes_isolates {outcome : Outcome} (h : ∀ g, outcome ≠ .generated g)
    (xs ys : List (Declaration × Outcome)) (o : Output) :
    let near := emitOutcomes xs o
    let without := emitOutcomes (xs ++ ys) o
    let whole := emitOutcomes (xs ++ (d, outcome) :: ys) o
    ∃ entries told, without.value = near.value ++ entries ∧
      whole.value = near.value ++ ⟨d.name, outcome.status d []⟩ :: entries ∧
      without.emitter.diagnostics = near.emitter.diagnostics ++ told ∧
      whole.emitter =
        { without.emitter with
          diagnostics := near.emitter.diagnostics ++ outcome.errors d ++ told } := by
  intro near without whole
  obtain ⟨status, barren⟩ := emitOutcome_barren (d := d) h near.emitter
  obtain ⟨values, told, kept, alike⟩ := (blind_simulation _ _).emitOutcomes ys
    (Output.AlikeSince.start near.emitter (outcome.errors d)) trivial
  obtain ⟨entries, emitter⟩ := emitOutcomes_append xs ys o
  obtain ⟨entries', emitter'⟩ := emitOutcomes_append xs ((d, outcome) :: ys) o
  simp only [emitOutcomes, near, status, barren] at entries' emitter'
  refine ⟨_, told, entries, ?_, emitter ▸ kept, ?_⟩
  · rw [values]
    exact entries'
  · exact (emitter'.trans alike).trans (by rw [emitter])

/-- **Isolation.** A declaration that fails or is skipped leaves no trace but its entry and its
diagnostic. With and without it, whatever order the workers follow, the same files stand in storage,
the same dependencies are recorded, and the declarations before and after it have the same entries.
Its error, if it failed, stands between the diagnostics of those before and of those after. -/
theorem runScheduled_isolates (s : Settings) {d : Declaration} (xs ys : List Declaration)
    (o : Output) {schedule schedule' : List Nat} (barren : ∀ g, s.process d ≠ .generated g)
    (h : schedule.Perm (List.range (xs ++ ys).length))
    (h' : schedule'.Perm (List.range (xs ++ d :: ys).length)) :
    let near := s.run xs o
    let without := s.runScheduled schedule (xs ++ ys) o
    let whole := s.runScheduled schedule' (xs ++ d :: ys) o
    whole.emitter.storage = without.emitter.storage ∧
    whole.emitter.records = without.emitter.records ∧
    whole.emitter.dependencies = without.emitter.dependencies ∧
    (∃ entries, near.value.entries.length = xs.length ∧
      without.value.entries = near.value.entries ++ entries ∧
      whole.value.entries =
        near.value.entries ++ ⟨d.name, (s.process d).status d []⟩ :: entries) ∧
    ∃ told, without.emitter.diagnostics = near.emitter.diagnostics ++ told ∧
      whole.emitter.diagnostics =
        near.emitter.diagnostics ++ (s.process d).errors d ++ told := by
  obtain ⟨entries, told, others, all, kept, emitter⟩ := emitOutcomes_isolates (d := d) barren
    (xs.map fun d => (d, s.process d)) (ys.map fun d => (d, s.process d)) o
  have near : s.run xs o = s.runScheduled (List.range xs.length) xs o := rfl
  simp only [near, (runScheduled_eq h).1, (runScheduled_eq h).2, (runScheduled_eq h').1,
    (runScheduled_eq h').2, (runScheduled_eq (.refl (List.range xs.length))).1,
    (runScheduled_eq (.refl (List.range xs.length))).2, List.map_append, List.map_cons]
  rw [emitter]
  exact ⟨rfl, rfl, rfl, ⟨entries, by rw [length_emitOutcomes, List.length_map], others, all⟩,
    told, kept, rfl⟩

/-- Of two equal declarations the second is refused. What stands between them fails, and only adds
its error. -/
theorem crowded_isolates :
    let load := twoAndNone.take 1
    let opened : Declaration := { name := ⟨"app.Open"⟩, kind := .klass }
    let without := lax.run (load ++ load) crowded
    let whole := lax.run (load ++ opened :: load) crowded
    whole.emitter.storage = without.emitter.storage ∧
      whole.emitter.records = without.emitter.records ∧
      ∃ first others, without.emitter.diagnostics = first ++ others ∧
        whole.emitter.diagnostics =
          first ++ [.ofError opened (.notClosed .klass opened.name)] ++ others ∧
        first.length = 1 ∧ 0 < others.length := by
  intro load opened without whole
  have failed : lax.process opened = .failed (.notClosed .klass opened.name) := by decide
  obtain ⟨storage, records, -, -, told, kept, added⟩ := runScheduled_isolates lax load load crowded
    (fun g => by rw [failed]; nofun) (.refl _) (.refl _)
  have first : (lax.run load crowded).emitter.diagnostics.length = 1 := by decide +kernel
  have all : 1 < without.emitter.diagnostics.length := by decide +kernel
  rw [failed] at added
  refine ⟨storage, records, _, told, kept, added, first, ?_⟩
  rw [show without.emitter.diagnostics = _ from kept, List.length_append, first] at all
  omega

end Concretize
