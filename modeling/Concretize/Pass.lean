import Concretize.Emitter
import Concretize.Outcome
import Concretize.Report

/-!
# Passes

A pass first decides the outcome of every declaration, in any order, and then hands the outcomes to
an emitter in input order. `Settings.run` returns the report, the final state of the emitter, and
the steps of the pass: every call made on the emitter and every event told to the log.
-/
namespace Concretize

/-- One step of a pass: a call made on the emitter, or an event for the log. -/
inductive Step where
  | event (event : Event)
  | emit (hierarchy : Hierarchy) (origin : Option String) (accepted : Bool)
  | emitRetention (source : QualifiedName) (directives : List Directive) (origin : Option String)
      (accepted : Bool)
  | report (diagnostic : Diagnostic)
deriving DecidableEq, Repr

/-- A value, the steps that led to it, and the emitter after them. -/
structure Run (σ α : Type) where
  value : α
  steps : List Step
  emitter : σ

variable {σ : Type} [Emitter σ]

/-- Hands a diagnostic to the emitter. -/
def handOver (diagnostic : Diagnostic) (s : σ) : Run σ Unit :=
  let (events, s) := Emitter.report diagnostic s
  { value := (), steps := .report diagnostic :: events.map .event, emitter := s }

/-- Reports an output of `d` that was refused, if it was. -/
def reportRefusal (d : Declaration) (refusal : Option GenerationError) (s : σ) : Run σ Unit :=
  match refusal with
  | none => { value := (), steps := [], emitter := s }
  | some e =>
    let diagnostic := Diagnostic.ofError d e
    let told := handOver diagnostic s
    { told with steps := .event (.emitFailed diagnostic) :: told.steps }

/-- Offers one hierarchy of `d`; the value says whether it was accepted. -/
def offerHierarchy (d : Declaration) (h : Hierarchy) (s : σ) : Run σ Bool :=
  let (reply, s) := Emitter.emit h d.origin s
  let accepted := reply.refusal.isNone
  let told := reportRefusal d reply.refusal s
  { value := accepted
    steps := .emit h d.origin accepted :: reply.events.map .event ++ told.steps
    emitter := told.emitter }

/-- Offers hierarchies of `d` in order; the value holds the accepted names and counts refusals. -/
def offerHierarchies (d : Declaration) : List Hierarchy → σ → Run σ (List QualifiedName × Nat)
  | [], s => { value := ([], 0), steps := [], emitter := s }
  | h :: hs, s =>
    let first := offerHierarchy d h s
    let rest := offerHierarchies d hs first.emitter
    let (names, refusals) := rest.value
    { value := if first.value then (h.name :: names, refusals) else (names, refusals + 1)
      steps := first.steps ++ rest.steps
      emitter := rest.emitter }

/-- Offers the directives of `d`; the value says whether they were accepted. -/
def offerRetention (d : Declaration) (directives : List Directive) (s : σ) : Run σ Bool :=
  let (reply, s) := Emitter.emitRetention d.name directives d.origin s
  let accepted := reply.refusal.isNone
  let told := reportRefusal d reply.refusal s
  { value := accepted
    steps := .emitRetention d.name directives d.origin accepted ::
      reply.events.map .event ++ told.steps
    emitter := told.emitter }

/-- Hands the outcome of `d` to the emitter. -/
def emitOutcome (d : Declaration) (outcome : Outcome) (s : σ) : Run σ Status :=
  match outcome with
  | .skipped =>
    { value := .skipped, steps := [.event (.declarationSkipped d.name)], emitter := s }
  | .failed e =>
    let diagnostic := Diagnostic.ofError d e
    let told := handOver diagnostic s
    { value := .failed e
      steps := .event (.declarationFailed diagnostic) :: told.steps
      emitter := told.emitter }
  | .generated g =>
    let offered := offerHierarchies d g.hierarchies s
    let retained := offerRetention d g.directives offered.emitter
    let (names, refusals) := offered.value
    { value := .generated names g.directives.length
        (if retained.value then refusals else refusals + 1)
      steps := offered.steps ++ retained.steps
      emitter := retained.emitter }

/-- Hands outcomes to the emitter in order. -/
def emitOutcomes : List (Declaration × Outcome) → σ → Run σ (List ReportEntry)
  | [], s => { value := [], steps := [], emitter := s }
  | (d, outcome) :: rest, s =>
    let first := emitOutcome d outcome s
    let others := emitOutcomes rest first.emitter
    { value := { declaration := d.name, status := first.value } :: others.value
      steps := first.steps ++ others.steps
      emitter := others.emitter }

/-- The events of deciding the outcome of `d`: one per tolerated collision. -/
def Settings.processEvents (s : Settings) (d : Declaration) : List Event :=
  (s.toleratedCollisions d).map fun c => .nameCollision d.name c.name c.bindings

/-- Outcomes worked off in the order of `schedule`, a list of positions, and collected by
position. -/
def Settings.processScheduled (s : Settings) (schedule : List Nat) (ds : List Declaration) :
    List Outcome :=
  let finished := schedule.filterMap fun i => ds[i]?.map fun d => (i, s.process d)
  (List.range ds.length).filterMap fun i => finished.lookup i

/-- The outcome of every declaration, in input order. Only parallel workers follow the schedule. -/
def Settings.processAll (s : Settings) (schedule : List Nat) (ds : List Declaration) :
    List Outcome :=
  if s.workers.isParallel then s.processScheduled schedule ds else ds.map s.process

/-- A pass over `ds` whose workers follow `schedule`. -/
def Settings.runScheduled (s : Settings) (schedule : List Nat) (ds : List Declaration)
    (emitter : σ) : Run σ Report :=
  let emitted := emitOutcomes (ds.zip (s.processAll schedule ds)) emitter
  let report : Report := { entries := emitted.value }
  { value := report
    steps := .event (.passStarted ds.length s.workers) ::
      (ds.flatMap s.processEvents).map .event ++ emitted.steps ++
      [.event (.passEnded report.generatedCount report.hierarchyCount report.skippedCount
        report.failedCount)]
    emitter := emitted.emitter }

/-- A pass over `ds` whose workers take the declarations in input order. -/
def Settings.run (s : Settings) (ds : List Declaration) (emitter : σ) : Run σ Report :=
  s.runScheduled (List.range ds.length) ds emitter

end Concretize
