import Concretize.Proofs.Outcome
import Concretize.Proofs.Report

/-!
# How a report accounts for its pass

A report is written while the emitter is called, and its counts are drawn from it afterwards. Here
both are set against the calls themselves, for every emitter and whatever it refuses.

* `emitOutcome_accounts`: the status of a declaration is the one that its calls stand for
  (`Outcome.status`).
* `Report.counts_add_up`, `Report.hasErrors_iff`: the counts of any report.
* `runScheduled_accounts`: one entry per declaration, as many diagnostics as failures and refusals,
  and no errors in the report exactly if no diagnostic was handed over.
-/
namespace Concretize

variable {σ : Type} [Emitter σ] {s : Settings} {d : Declaration}

/-! ## What calls stand for -/

/-- The name of the hierarchy that is offered, if it is one. -/
def Offer.hierarchyName? : Offer → Option QualifiedName
  | .hierarchy h _ => some h.name
  | .retention .. => none

/-- The names of the hierarchies that were accepted, in the order of the calls. -/
def acceptedNames (cs : List Call) : List QualifiedName :=
  (cs.filterMap Call.accepted?).filterMap Offer.hierarchyName?

/-- Whether a call is an offer that was refused. -/
def Call.isRefused : Call → Bool
  | .offer _ refusal => refusal.isSome
  | .report _ => false

/-- Whether a call hands over a diagnostic. -/
def Call.isReport : Call → Bool
  | .report _ => true
  | .offer .. => false

/-- What there is to say of a declaration with this outcome, after the calls made for it. -/
def Outcome.status (d : Declaration) (cs : List Call) : Outcome → Status
  | .generated _ =>
    .generated (acceptedNames cs) (d.bindings.length * d.variants.length)
      (cs.countP Call.isRefused)
  | .skipped => .skipped
  | .failed e => .failed e

/-- The number of failures that a status reports: one, or none. -/
def Status.failures (status : Status) : Nat := if status.isFailed then 1 else 0

/-- Every refusal is reported, and nothing else is. -/
theorem Answered.countP_isReport {os : List Offer} {cs : List Call} (h : Answered d os cs) :
    cs.countP Call.isReport = cs.countP Call.isRefused := by
  induction h with
  | nil => rfl
  | accepted o _ ih => simpa [List.countP_cons, Call.isReport, Call.isRefused] using ih
  | refused o x _ ih => simpa [List.countP_cons, Call.isReport, Call.isRefused] using ih

/-- What is accepted was offered, in the same order. -/
theorem Answered.accepted_sublist {os : List Offer} {cs : List Call} (h : Answered d os cs) :
    (cs.filterMap Call.accepted?).Sublist os := by
  induction h with
  | nil => exact .slnil
  | accepted o _ ih => exact ih.cons_cons o
  | refused o x _ ih => exact ih.cons o

/-- The diagnostics of a segment are its failure and its refusals. -/
theorem Segment.countP_isReport {outcome : Outcome} {cs : List Call} (h : Segment d outcome cs) :
    cs.countP Call.isReport =
      (outcome.status d cs).failures + (outcome.status d cs).refusals := by
  cases h with
  | skipped => rfl
  | failed => rfl
  | generated h =>
    simpa [Outcome.status, Status.failures, Status.isFailed, Status.refusals]
      using h.countP_isReport

theorem names_of_offers {g : Generation} (h : s.process d = .generated g) :
    ((Outcome.generated g).offers d).filterMap Offer.hierarchyName? =
      d.bindings.map d.generatedName := by
  obtain ⟨-, -, -, -, rfl⟩ := process_eq_generated_iff.1 h
  simp [Outcome.offers, Settings.generation, List.filterMap_map, Function.comp_def,
    Offer.hierarchyName?, Settings.realize, Declaration.instantiate]

/-- The names accepted for a declaration are generated for its bindings, in their order. -/
theorem Segment.acceptedNames_sublist {cs : List Call} (h : Segment d (s.process d) cs) :
    (acceptedNames cs).Sublist (d.bindings.map d.generatedName) := by
  cases outcome : s.process d with
  | skipped =>
    rw [outcome] at h
    cases h
    exact List.nil_sublist _
  | failed e =>
    rw [outcome] at h
    cases h
    exact List.nil_sublist _
  | generated g =>
    rw [outcome] at h
    cases h with
    | generated h =>
      rw [← names_of_offers outcome]
      exact h.accepted_sublist.filterMap _

/-! ## Steps that record calls -/

/-- The name of the hierarchy that a step got accepted, if it did. -/
def Step.acceptedName? : Step → Option QualifiedName
  | .emit h _ true => some h.name
  | _ => none

/-- Whether a step hands over a diagnostic. -/
def Step.isReport : Step → Bool
  | .report _ => true
  | _ => false

theorem acceptedName?_step (c : Call) :
    c.step.acceptedName? = c.accepted?.bind Offer.hierarchyName? := by
  rcases c with ⟨o, _ | _⟩ | _
  · cases o <;> rfl
  · cases o <;> rfl
  · rfl

theorem isRefused_step (c : Call) : c.step.isRefused = c.isRefused := by
  rcases c with ⟨o, _ | _⟩ | _
  · cases o <;> rfl
  · cases o <;> rfl
  · rfl

theorem isReport_step (c : Call) : c.step.isReport = c.isReport := by
  rcases c with ⟨o, _ | _⟩ | _
  · cases o <;> rfl
  · cases o <;> rfl
  · rfl

section Makes
variable {α : Type} {r : Run σ α} {e : σ} {cs : List Call}

theorem Run.Makes.countP (h : r.Makes e cs) {p : Step → Bool} {q : Call → Bool}
    (events : ∀ x, p (.event x) = false) (hp : ∀ c, p c.step = q c) :
    r.steps.countP p = cs.countP q := by
  have calls : (r.steps.filter Step.isCall).countP p = r.steps.countP p := by
    rw [List.countP_filter]
    refine List.countP_congr fun step _ => ?_
    cases step <;> simp [Step.isCall, events]
  rw [← calls, h.calls, List.countP_map]
  exact List.countP_congr fun c _ => by simp [hp]

theorem Run.Makes.acceptedNames (h : r.Makes e cs) :
    r.steps.filterMap Step.acceptedName? = acceptedNames cs := by
  rw [h.filterMap (fun _ => rfl) acceptedName?_step, Concretize.acceptedNames,
    List.filterMap_filterMap]

theorem Run.Makes.refusals (h : r.Makes e cs) :
    Concretize.refusals r.steps = cs.countP Call.isRefused :=
  h.countP (fun _ => rfl) isRefused_step

end Makes

/-! ## The status of one declaration -/

theorem acceptedNames_reportRefusal (refusal : Option GenerationError) (e : σ) :
    (reportRefusal d refusal e).steps.filterMap Step.acceptedName? = [] := by
  rw [(reportRefusal_makes d refusal e).acceptedNames]
  cases refusal <;> rfl

theorem acceptedNames_offerHierarchy (h : Hierarchy) (e : σ) :
    (offerHierarchy d h e).steps.filterMap Step.acceptedName? =
      if (offerHierarchy d h e).value then [h.name] else [] := by
  have first (accepted : Bool) :
      [Step.emit h d.origin accepted].filterMap Step.acceptedName? =
        if accepted then [h.name] else [] := by
    cases accepted <;> rfl
  have events (xs : List Event) : (xs.map Step.event).filterMap Step.acceptedName? = [] := by
    rw [List.filterMap_map]
    exact List.filterMap_eq_nil_iff.2 fun _ _ => rfl
  have steps : (offerHierarchy d h e).steps = [.emit h d.origin (offerHierarchy d h e).value] ++
      ((Emitter.emit h d.origin e).1.events.map .event ++
        (reportRefusal d (Emitter.emit h d.origin e).1.refusal
          (Emitter.emit h d.origin e).2).steps) := rfl
  rw [steps, List.filterMap_append, List.filterMap_append, events, acceptedNames_reportRefusal,
    first, List.append_nil, List.append_nil]

theorem acceptedNames_offerHierarchies (hs : List Hierarchy) (e : σ) :
    (offerHierarchies d hs e).steps.filterMap Step.acceptedName? =
      (offerHierarchies d hs e).value.1 := by
  induction hs generalizing e with
  | nil => rfl
  | cons h hs ih =>
    simp only [offerHierarchies, List.filterMap_append, acceptedNames_offerHierarchy, ih]
    split <;> rfl

theorem acceptedNames_offerRetention (directives : List Directive) (e : σ) :
    (offerRetention d directives e).steps.filterMap Step.acceptedName? = [] := by
  obtain ⟨cs, answered, made⟩ := offer_makes d (.retention d.name directives d.origin) e
  rw [← offerRetention_eq] at made
  rw [made.acceptedNames, acceptedNames, List.filterMap_eq_nil_iff]
  intro o ho
  rw [List.mem_singleton.1 (answered.accepted_sublist.subset ho)]
  rfl

theorem length_directives {g : Generation} (h : s.process d = .generated g) :
    g.directives.length = d.bindings.length * d.variants.length := by
  obtain ⟨-, -, -, -, rfl⟩ := process_eq_generated_iff.1 h
  simp [Settings.generation, List.flatMap_map, List.length_flatMap, Hierarchy.directives,
    Settings.realize, Declaration.instantiate]

/-- The status of a declaration is what its calls stand for. -/
theorem emitOutcome_accounts (s : Settings) (d : Declaration) (e : σ) :
    ∃ cs, Segment d (s.process d) cs ∧ (emitOutcome d (s.process d) e).Makes e cs ∧
      (emitOutcome d (s.process d) e).value = (s.process d).status d cs := by
  obtain ⟨cs, segment, made⟩ := emitOutcome_makes d (s.process d) e
  refine ⟨cs, segment, made, ?_⟩
  have names := made.acceptedNames
  have refused := made.refusals
  rw [refusals_emitOutcome] at refused
  cases outcome : s.process d with
  | skipped => rfl
  | failed x => rfl
  | generated g =>
    rw [outcome] at names refused
    simp only [emitOutcome, List.filterMap_append, acceptedNames_offerHierarchies,
      acceptedNames_offerRetention, List.append_nil] at names
    rw [Outcome.status, ← names, ← refused, ← length_directives outcome]
    rfl

/-! ## Counts -/

theorem Status.one_sort (status : Status) :
    (if status.isGenerated then 1 else 0) + (if status.isSkipped then 1 else 0) +
      status.failures = 1 := by
  cases status <;> rfl

theorem Status.isTroubled_iff (status : Status) :
    status.isTroubled = true ↔ 0 < status.failures + status.refusals := by
  cases status <;> simp [isTroubled, failures, isFailed, Status.refusals]

theorem Report.failedCount_cons (entry : ReportEntry) (entries : List ReportEntry) :
    (⟨entry :: entries⟩ : Report).failedCount =
      entry.status.failures + (⟨entries⟩ : Report).failedCount := by
  rw [failedCount, List.countP_cons, Nat.add_comm]
  rfl

theorem Report.counts_add_up (entries : List ReportEntry) :
    (⟨entries⟩ : Report).generatedCount + (⟨entries⟩ : Report).skippedCount +
      (⟨entries⟩ : Report).failedCount = entries.length := by
  induction entries with
  | nil => rfl
  | cons entry entries ih =>
    have one := entry.status.one_sort
    rw [failedCount_cons, List.length_cons, ← ih]
    simp only [generatedCount, skippedCount, List.countP_cons]
    omega

/-- A report has errors if it counts a failure or a refusal. -/
theorem Report.hasErrors_iff (entries : List ReportEntry) :
    (⟨entries⟩ : Report).hasErrors = true ↔
      0 < (⟨entries⟩ : Report).failedCount + (⟨entries⟩ : Report).refusals := by
  induction entries with
  | nil => simp [hasErrors, failedCount, refusals]
  | cons entry entries ih =>
    rw [hasErrors] at ih ⊢
    rw [List.any_cons, Bool.or_eq_true, ih, Status.isTroubled_iff, failedCount_cons]
    simp only [refusals, List.foldr_cons]
    omega

/-! ## The report of a pass -/

theorem emitOutcomes_accounts (s : Settings) (ds : List Declaration) (e : σ) :
    ∃ segments, List.Forall₂ (fun d cs => Segment d (s.process d) cs) ds segments ∧
      (emitOutcomes (ds.map fun d => (d, s.process d)) e).Makes e segments.flatten ∧
      (emitOutcomes (ds.map fun d => (d, s.process d)) e).value =
        List.zipWith (fun d cs => ⟨d.name, (s.process d).status d cs⟩) ds segments := by
  induction ds generalizing e with
  | nil => exact ⟨[], .nil, ⟨rfl, .nil e⟩, rfl⟩
  | cons d ds ih =>
    obtain ⟨cs, segment, made, status⟩ := emitOutcome_accounts s d e
    obtain ⟨segments, others, made', entries⟩ := ih (emitOutcome d (s.process d) e).emitter
    refine ⟨cs :: segments, .cons segment others, made.append made' _, ?_⟩
    rw [List.map_cons, List.zipWith_cons_cons, ← status, ← entries]
    rfl

/-- Segment by segment, the diagnostics handed over are the failures and refusals reported. -/
theorem countP_isReport_segments {ds : List Declaration} {segments : List (List Call)}
    (h : List.Forall₂ (fun d cs => Segment d (s.process d) cs) ds segments) :
    let report : Report :=
      ⟨List.zipWith (fun d cs => ⟨d.name, (s.process d).status d cs⟩) ds segments⟩
    segments.flatten.countP Call.isReport = report.failedCount + report.refusals := by
  induction h with
  | nil => rfl
  | cons segment _ ih =>
    simp only [List.zipWith_cons_cons, List.flatten_cons, List.countP_append,
      segment.countP_isReport, Report.failedCount_cons, Report.refusals, List.foldr_cons] at ih ⊢
    omega

/-- **Accounts of a pass.** Whatever the emitter refuses, a report has one entry per declaration, in
input order, with the status that the calls made for this declaration stand for: the names that were
accepted, in binding order, and the number of refused calls. The entries of the three sorts are all
entries, there are as many diagnostics as failures and refusals, and the report has errors exactly
if a diagnostic was handed over. -/
theorem runScheduled_accounts (s : Settings) {schedule : List Nat} (ds : List Declaration) (e : σ)
    (h : schedule.Perm (List.range ds.length)) :
    (∃ segments,
      List.Forall₂ (fun d cs => Segment d (s.process d) cs ∧
        (acceptedNames cs).Sublist (d.bindings.map d.generatedName)) ds segments ∧
      (s.runScheduled schedule ds e).Makes e segments.flatten ∧
      (s.runScheduled schedule ds e).value.entries =
        List.zipWith (fun d cs => ⟨d.name, (s.process d).status d cs⟩) ds segments) ∧
    let report := (s.runScheduled schedule ds e).value
    let steps := (s.runScheduled schedule ds e).steps
    report.entries.length = ds.length ∧
    report.generatedCount + report.skippedCount + report.failedCount = ds.length ∧
    steps.countP Step.isReport = report.failedCount + report.refusals ∧
    (report.hasErrors = true ↔ ∃ x, .report x ∈ steps) := by
  obtain ⟨segments, segment, made, entries⟩ := emitOutcomes_accounts s ds e
  have reports := countP_isReport_segments segment
  rw [← entries] at reports
  rw [(runScheduled_eq h).1]
  have pass : (s.runScheduled schedule ds e).Makes e segments.flatten := makes_runScheduled h made
  have told : (s.runScheduled schedule ds e).steps.countP Step.isReport =
      segments.flatten.countP Call.isReport := pass.countP (fun _ => rfl) isReport_step
  have all : (emitOutcomes (ds.map fun d => (d, s.process d)) e).value.length = ds.length := by
    rw [length_emitOutcomes, List.length_map]
  refine ⟨⟨segments, segment.imp fun _ _ h => ⟨h, h.acceptedNames_sublist⟩, pass, entries⟩,
    all, ?_, told.trans reports, ?_⟩
  · rw [Report.counts_add_up, all]
  · rw [Report.hasErrors_iff, ← reports, ← told, List.countP_pos_iff]
    constructor
    · rintro ⟨step, hs, hr⟩
      cases step <;> cases hr
      exact ⟨_, hs⟩
    · rintro ⟨x, hx⟩
      exact ⟨_, hx, rfl⟩

/-- An emitter that takes every other hierarchy, and no directives. -/
structure Choosy where
  takesNext : Bool := true

instance : Emitter Choosy where
  emit h _ c :=
    ({ refusal := if c.takesNext then none else some (.emit h.name.text .notFound) },
      ⟨!c.takesNext⟩)
  emitRetention source _ _ c := ({ refusal := some (.emit source.text .notFound) }, c)
  report _ c := ([], c)

theorem choosy_accounts :
    let run := lax.runScheduled [1, 0] twoAndNone ({} : Choosy)
    run.value.entries.map (·.status) =
        [.generated [⟨"app.UserLoad"⟩] 2 2, .failed (.notClosed .klass ⟨"app.Open"⟩)] ∧
      run.steps.countP Step.isReport = run.value.failedCount + run.value.refusals ∧
      run.value.failedCount + run.value.refusals = 3 ∧ ∃ x, .report x ∈ run.steps := by
  obtain ⟨-, -, -, reports, errors⟩ := runScheduled_accounts lax twoAndNone ({} : Choosy)
    (show [1, 0].Perm (List.range 2) by decide)
  exact ⟨by decide +kernel, reports, by decide +kernel, errors.1 (by decide +kernel)⟩

end Concretize
