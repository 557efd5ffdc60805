import Concretize.Pass
import Mathlib.Data.List.Forall2

/-!
# The calls of a pass

What a pass asks of its emitter, for every emitter, every list of declarations and every schedule
of the workers. An emitter may refuse any output, and what it refuses may depend on all calls
before.

* `processScheduled_eq_map`: workers that take every declaration once decide the same outcomes as
  one that goes through the list.
* `emitOutcome_makes`: the calls for one outcome are a `Segment` of it.
* `runScheduled_makes`: the calls of a pass are the segments of all declarations in input order,
  and the outputs offered are the same whatever the emitter refuses.
-/
namespace Concretize

variable {σ : Type} [Emitter σ] {s : Settings} {d : Declaration}

/-! ## Calls -/

/-- An output that an emitter is asked to take. -/
inductive Offer where
  | hierarchy (h : Hierarchy) (origin : Option String)
  | retention (source : QualifiedName) (directives : List Directive) (origin : Option String)

/-- A call on an emitter; an offer comes with the refusal it met, if it met one. -/
inductive Call where
  | offer (o : Offer) (refusal : Option GenerationError)
  | report (diagnostic : Diagnostic)

def Offer.make : Offer → σ → Reply × σ
  | .hierarchy h origin => Emitter.emit h origin
  | .retention source directives origin => Emitter.emitRetention source directives origin

def Offer.step : Offer → Bool → Step
  | .hierarchy h origin => .emit h origin
  | .retention source directives origin => .emitRetention source directives origin

/-- The step that records a call. -/
def Call.step : Call → Step
  | .offer o refusal => o.step refusal.isNone
  | .report diagnostic => .report diagnostic

def Call.offer? : Call → Option Offer
  | .offer o _ => some o
  | .report _ => none

/-- The output of a call that was accepted. -/
def Call.accepted? : Call → Option Offer
  | .offer o none => some o
  | _ => none

def Step.isCall : Step → Bool
  | .event _ => false
  | _ => true

/-- The output that a step offers, if it offers one. -/
def Step.offer? : Step → Option Offer
  | .emit h origin _ => some (.hierarchy h origin)
  | .emitRetention source directives origin _ => some (.retention source directives origin)
  | _ => none

/-- Made in order, the calls lead from the first emitter to the last, and every offer is answered
as the call has it. -/
inductive Replays : σ → List Call → σ → Prop where
  | nil (e : σ) : Replays e [] e
  | offer {e e' : σ} {cs : List Call} (o : Offer) (h : Replays (o.make e).2 cs e') :
      Replays e (.offer o (o.make e).1.refusal :: cs) e'
  | report {e e' : σ} {cs : List Call} (x : Diagnostic) (h : Replays (Emitter.report x e).2 cs e') :
      Replays e (.report x :: cs) e'

/-- The steps of the run record exactly these calls, and its emitter is the one they lead to. -/
structure Run.Makes {α : Type} (r : Run σ α) (e : σ) (cs : List Call) : Prop where
  calls : r.steps.filter Step.isCall = cs.map Call.step
  replays : Replays e cs r.emitter

theorem Replays.append {e e' e'' : σ} {cs cs' : List Call} (h : Replays e cs e')
    (h' : Replays e' cs' e'') : Replays e (cs ++ cs') e'' := by
  induction h with
  | nil => exact h'
  | offer o _ ih => exact .offer o (ih h')
  | report x _ ih => exact .report x (ih h')

/-- What no call gives up still holds after all of them. -/
theorem Replays.preserves {I : σ → Prop} (offer : ∀ (o : Offer) e, I e → I (o.make e).2)
    (report : ∀ x e, I e → I (Emitter.report x e).2) {e e' : σ} {cs : List Call}
    (h : Replays e cs e') (start : I e) : I e' := by
  induction h with
  | nil => exact start
  | offer o _ ih => exact ih (offer o _ start)
  | report x _ ih => exact ih (report x _ start)

theorem Run.Makes.append {α β γ : Type} {r : Run σ α} {r' : Run σ β} {e : σ} {cs cs' : List Call}
    (h : r.Makes e cs) (h' : r'.Makes r.emitter cs') (c : γ) :
    (⟨c, r.steps ++ r'.steps, r'.emitter⟩ : Run σ γ).Makes e (cs ++ cs') where
  calls := by rw [List.filter_append, h.calls, h'.calls, List.map_append]
  replays := h.replays.append h'.replays

theorem isCall_step (c : Call) : c.step.isCall = true := by
  rcases c with ⟨o, _⟩ | _
  · cases o <;> rfl
  · rfl

theorem filter_step (c : Call) (steps : List Step) :
    (c.step :: steps).filter Step.isCall = c.step :: steps.filter Step.isCall :=
  List.filter_cons_of_pos (isCall_step c)

theorem filter_event (x : Event) (steps : List Step) :
    (.event x :: steps).filter Step.isCall = steps.filter Step.isCall := rfl

theorem filter_events (events : List Event) (steps : List Step) :
    (events.map Step.event ++ steps).filter Step.isCall = steps.filter Step.isCall := by
  induction events with
  | nil => rfl
  | cons x _ ih => exact (filter_event x _).trans ih

theorem offer?_step (c : Call) : c.step.offer? = c.offer? := by
  rcases c with ⟨o, _⟩ | _
  · cases o <;> rfl
  · rfl

/-- What is drawn from steps and not from events is drawn from the calls of a run. -/
theorem Run.Makes.filterMap {α β : Type} {r : Run σ α} {e : σ} {cs : List Call}
    (h : r.Makes e cs) {f : Step → Option β} {g : Call → Option β}
    (events : ∀ x, f (.event x) = none) (calls : ∀ c, f c.step = g c) :
    r.steps.filterMap f = cs.filterMap g := by
  have steps : (r.steps.filter Step.isCall).filterMap f = r.steps.filterMap f := by
    rw [List.filterMap_filter]
    refine List.filterMap_congr fun step _ => ?_
    cases step with
    | event x => exact (events x).symm
    | emit | emitRetention | report => rfl
  rw [← steps, h.calls, List.filterMap_map]
  exact List.filterMap_congr fun c _ => calls c

/-- Only calls offer anything, so the outputs offered by a run are those of its calls. -/
theorem Run.Makes.offers {α : Type} {r : Run σ α} {e : σ} {cs : List Call} (h : r.Makes e cs) :
    r.steps.filterMap Step.offer? = cs.filterMap Call.offer? :=
  h.filterMap (fun _ => rfl) offer?_step

/-! ## Segments -/

/-- Every offer is made once and in order. A refusal is reported before the next offer, and nothing
else is. -/
inductive Answered (d : Declaration) : List Offer → List Call → Prop where
  | nil : Answered d [] []
  | accepted {os : List Offer} {cs : List Call} (o : Offer) (h : Answered d os cs) :
      Answered d (o :: os) (.offer o none :: cs)
  | refused {os : List Offer} {cs : List Call} (o : Offer) (x : GenerationError)
      (h : Answered d os cs) :
      Answered d (o :: os) (.offer o (some x) :: .report (.ofError d x) :: cs)

/-- The outputs of an outcome: every hierarchy, then all directives at once. -/
def Outcome.offers (d : Declaration) : Outcome → List Offer
  | .generated g =>
    g.hierarchies.map (.hierarchy · d.origin) ++ [.retention d.name g.directives d.origin]
  | .skipped => []
  | .failed _ => []

/-- The calls that an outcome of `d` stands for. -/
inductive Segment (d : Declaration) : Outcome → List Call → Prop where
  | skipped : Segment d .skipped []
  | failed (x : GenerationError) :
      Segment d (.failed x) [.report ⟨.error, x.message, d.name, d.kind⟩]
  | generated {g : Generation} {cs : List Call}
      (h : Answered d ((Outcome.generated g).offers d) cs) : Segment d (.generated g) cs

theorem answered_single (o : Offer) (refusal : Option GenerationError) :
    Answered d [o] (.offer o refusal :: refusal.toList.map fun x => .report (.ofError d x)) := by
  cases refusal with
  | none => exact .accepted o .nil
  | some x => exact .refused o x .nil

theorem Answered.append {os os' : List Offer} {cs cs' : List Call} (h : Answered d os cs)
    (h' : Answered d os' cs') : Answered d (os ++ os') (cs ++ cs') := by
  induction h with
  | nil => exact h'
  | accepted o _ ih => exact .accepted o ih
  | refused o x _ ih => exact .refused o x ih

theorem Answered.offers {os : List Offer} {cs : List Call} (h : Answered d os cs) :
    cs.filterMap Call.offer? = os := by
  induction h with
  | nil => rfl
  | accepted o _ ih => exact congrArg (o :: ·) ih
  | refused o x _ ih => exact congrArg (o :: ·) ih

theorem Segment.offers {outcome : Outcome} {cs : List Call} (h : Segment d outcome cs) :
    cs.filterMap Call.offer? = outcome.offers d := by
  cases h with
  | skipped => rfl
  | failed => rfl
  | generated h => exact h.offers

/-- Segment by segment, everything is offered that the outcomes hold. -/
theorem segments_offers {ds : List Declaration} {segments : List (List Call)}
    (h : List.Forall₂ (fun d cs => Segment d (s.process d) cs) ds segments) :
    segments.flatten.filterMap Call.offer? = ds.flatMap fun d => (s.process d).offers d := by
  induction h with
  | nil => rfl
  | cons hd _ ih => rw [List.flatten_cons, List.filterMap_append, hd.offers, ih, List.flatMap_cons]

/-! ## The calls for one outcome -/

theorem handOver_makes (x : Diagnostic) (e : σ) : (handOver x e).Makes e [.report x] where
  calls := by
    have told := filter_events (Emitter.report x e).1 []
    rw [List.append_nil] at told
    exact (filter_step (.report x) _).trans (congrArg _ told)
  replays := .report x (.nil _)

theorem reportRefusal_makes (d : Declaration) (refusal : Option GenerationError) (e : σ) :
    (reportRefusal d refusal e).Makes e
      (refusal.toList.map fun x => .report (.ofError d x)) := by
  cases refusal with
  | none => exact ⟨rfl, .nil e⟩
  | some x =>
    have told := handOver_makes (.ofError d x) e
    exact ⟨told.calls, told.replays⟩

/-- An offer of either sort, as a pass makes it. -/
def Declaration.offer (d : Declaration) (o : Offer) (e : σ) : Run σ Bool :=
  let (reply, e) := o.make e
  let told := reportRefusal d reply.refusal e
  { value := reply.refusal.isNone
    steps := (Call.offer o reply.refusal).step :: reply.events.map .event ++ told.steps
    emitter := told.emitter }

theorem offerHierarchy_eq (h : Hierarchy) (e : σ) :
    offerHierarchy d h e = d.offer (.hierarchy h d.origin) e := rfl

theorem offerRetention_eq (directives : List Directive) (e : σ) :
    offerRetention d directives e = d.offer (.retention d.name directives d.origin) e := rfl

theorem offer_makes (d : Declaration) (o : Offer) (e : σ) :
    ∃ cs, Answered d [o] cs ∧ (d.offer o e).Makes e cs := by
  have told := reportRefusal_makes d (o.make e).1.refusal (o.make e).2
  refine ⟨_, answered_single o (o.make e).1.refusal, ?_, .offer o told.replays⟩
  simp only [Declaration.offer, List.cons_append]
  rw [filter_step, filter_events, told.calls, List.map_cons]

theorem offerHierarchies_makes (d : Declaration) (hs : List Hierarchy) (e : σ) :
    ∃ cs, Answered d (hs.map (.hierarchy · d.origin)) cs ∧ (offerHierarchies d hs e).Makes e cs := by
  induction hs generalizing e with
  | nil => exact ⟨[], .nil, rfl, .nil e⟩
  | cons h hs ih =>
    obtain ⟨cs, ha, hm⟩ := offer_makes d (.hierarchy h d.origin) e
    rw [← offerHierarchy_eq] at hm
    obtain ⟨cs', ha', hm'⟩ := ih (offerHierarchy d h e).emitter
    exact ⟨cs ++ cs', ha.append ha', hm.append hm' _⟩

theorem emitOutcome_makes (d : Declaration) (outcome : Outcome) (e : σ) :
    ∃ cs, Segment d outcome cs ∧ (emitOutcome d outcome e).Makes e cs := by
  cases outcome with
  | skipped => exact ⟨[], .skipped, rfl, .nil e⟩
  | failed x =>
    have told := handOver_makes (.ofError d x) e
    exact ⟨_, .failed x, told.calls, told.replays⟩
  | generated g =>
    obtain ⟨cs, ha, hm⟩ := offerHierarchies_makes d g.hierarchies e
    obtain ⟨cs', ha', hm'⟩ := offer_makes d (.retention d.name g.directives d.origin)
      (offerHierarchies d g.hierarchies e).emitter
    rw [← offerRetention_eq] at hm'
    exact ⟨cs ++ cs', .generated (ha.append ha'), hm.append hm' _⟩

/-! ## The calls of a pass -/

theorem emitOutcomes_makes (outcomes : List (Declaration × Outcome)) (e : σ) :
    ∃ segments, List.Forall₂ (fun p cs => Segment p.1 p.2 cs) outcomes segments ∧
      (emitOutcomes outcomes e).Makes e segments.flatten := by
  induction outcomes generalizing e with
  | nil => exact ⟨[], .nil, rfl, .nil e⟩
  | cons p rest ih =>
    obtain ⟨cs, hs, hm⟩ := emitOutcome_makes p.1 p.2 e
    obtain ⟨segments, hss, hm'⟩ := ih (emitOutcome p.1 p.2 e).emitter
    exact ⟨cs :: segments, .cons hs hss, hm.append hm' _⟩

/-- A pass reports on every declaration. -/
theorem length_emitOutcomes (outcomes : List (Declaration × Outcome)) (e : σ) :
    (emitOutcomes outcomes e).value.length = outcomes.length := by
  induction outcomes generalizing e with
  | nil => rfl
  | cons p rest ih => rw [emitOutcomes, List.length_cons, ih, List.length_cons]

theorem lookup_filterMap {α : Type} (f : Nat → Option α) (l : List Nat) (i : Nat) :
    (l.filterMap fun j => (f j).map (j, ·)).lookup i = if i ∈ l then f i else none := by
  induction l with
  | nil => rfl
  | cons j l ih =>
    rw [List.filterMap_cons]
    by_cases hij : i = j
    · subst hij
      cases hf : f i with
      | none => simp [hf, ih]
      | some a => simp
    · have hne : (i == j) = false := by simp [hij]
      cases hf : f j with
      | none => simp [ih, hij]
      | some a => simp [List.lookup_cons, hne, ih, hij]

theorem filterMap_range_getElem? {α β : Type} (f : α → β) (l : List α) :
    ((List.range l.length).filterMap fun i => l[i]?.map f) = l.map f := by
  induction l with
  | nil => rfl
  | cons a l ih =>
    rw [List.length_cons, List.range_succ_eq_map, List.filterMap_cons, List.filterMap_map]
    simpa [Function.comp_def] using ih

/-- Workers that take every declaration once decide the outcome of every declaration. -/
theorem processScheduled_eq_map {schedule : List Nat} {ds : List Declaration}
    (h : schedule.Perm (List.range ds.length)) :
    s.processScheduled schedule ds = ds.map s.process := by
  have found (i : Nat) :
      (schedule.filterMap fun j => ds[j]?.map fun d => (j, s.process d)).lookup i =
        if i ∈ schedule then ds[i]?.map s.process else none := by
    rw [← lookup_filterMap (fun j => ds[j]?.map s.process)]
    simp [Option.map_map, Function.comp_def]
  rw [Settings.processScheduled, ← filterMap_range_getElem?]
  refine List.filterMap_congr fun i hi => ?_
  rw [found, if_pos (h.mem_iff.2 hi)]

theorem processAll_eq_map {schedule : List Nat} {ds : List Declaration}
    (h : schedule.Perm (List.range ds.length)) : s.processAll schedule ds = ds.map s.process := by
  unfold Settings.processAll
  split
  · exact processScheduled_eq_map h
  · rfl

section Schedule
variable {schedule : List Nat} {ds : List Declaration} {e : σ}
  (h : schedule.Perm (List.range ds.length))
include h

theorem zip_processAll :
    ds.zip (s.processAll schedule ds) = ds.map fun d => (d, s.process d) := by
  rw [processAll_eq_map h, List.map_prod_left_eq_zip]

/-- A pass hands every declaration's own outcome to the emitter, in whatever order the workers took
the declarations. -/
theorem runScheduled_eq :
    (s.runScheduled schedule ds e).value =
        ⟨(emitOutcomes (ds.map fun d => (d, s.process d)) e).value⟩ ∧
      (s.runScheduled schedule ds e).emitter =
        (emitOutcomes (ds.map fun d => (d, s.process d)) e).emitter := by
  simp only [Settings.runScheduled, zip_processAll h, and_self]

theorem makes_runScheduled {cs : List Call}
    (made : (emitOutcomes (ds.map fun d => (d, s.process d)) e).Makes e cs) :
    (s.runScheduled schedule ds e).Makes e cs := by
  simp only [Settings.runScheduled, zip_processAll h, List.cons_append, List.append_assoc]
  refine ⟨?_, made.replays⟩
  rw [filter_event, filter_events, List.filter_append, made.calls, filter_event, List.filter_nil,
    List.append_nil]

end Schedule

/-- **Calls of a pass.** Whatever the emitter refuses, a pass whose workers take every declaration
once makes the calls of one segment per declaration, in input order. The emitter ends where these
calls lead it, and what it is offered does not depend on its answers. `Settings.run` is the pass
whose schedule is the input order itself. -/
theorem runScheduled_makes (s : Settings) {schedule : List Nat} (ds : List Declaration) (e : σ)
    (h : schedule.Perm (List.range ds.length)) :
    ∃ segments, List.Forall₂ (fun d cs => Segment d (s.process d) cs) ds segments ∧
      (s.runScheduled schedule ds e).Makes e segments.flatten ∧
      (s.runScheduled schedule ds e).steps.filterMap Step.offer? =
        ds.flatMap fun d => (s.process d).offers d := by
  have pairs : ds.zip (s.processAll schedule ds) = ds.map fun d => (d, s.process d) := by
    rw [processAll_eq_map h, List.map_prod_left_eq_zip]
  obtain ⟨segments, hs, hm⟩ := emitOutcomes_makes (ds.map fun d => (d, s.process d)) e
  rw [List.forall₂_map_left_iff] at hs
  have made : (s.runScheduled schedule ds e).Makes e segments.flatten := by
    constructor
    · simp only [Settings.runScheduled, pairs, List.cons_append, List.append_assoc]
      rw [filter_event, filter_events, List.filter_append, hm.calls, filter_event,
        List.filter_nil, List.append_nil]
    · simp only [Settings.runScheduled, pairs]
      exact hm.replays
  exact ⟨segments, hs, made, made.offers.trans (segments_offers hs)⟩

/-- An emitter that takes directives and diagnostics, and no hierarchy. It keeps the diagnostics. -/
structure Barred where
  told : List Diagnostic := []

instance : Emitter Barred where
  emit h _ b := ({ refusal := some (.emit h.name.text .notFound) }, b)
  emitRetention _ _ _ b := ({}, b)
  report x b := ([], { b with told := b.told ++ [x] })

/-- A declaration with two models, and one that is not sealed. -/
def twoAndNone : List Declaration :=
  [{ name := ⟨"app.Load"⟩
     kind := .interface
     modifiers := [.isSealed]
     variants := [{ name := "Done", kind := .object }]
     models := some [{ type := { path := ⟨"app.User"⟩ } }, { type := { path := ⟨"app.Item"⟩ } }] },
   { name := ⟨"app.Open"⟩, kind := .klass }]

/-- Settings that allow collisions. -/
def lax : Settings := { collisions := .allow }

theorem twoAndNone_makes :
    ∃ segments, List.Forall₂ (fun d cs => Segment d (lax.process d) cs) twoAndNone segments ∧
      (lax.runScheduled [1, 0] twoAndNone ({} : Barred)).Makes {} segments.flatten ∧
      (lax.runScheduled [1, 0] twoAndNone ({} : Barred)).emitter.told.length = 3 := by
  obtain ⟨segments, hs, hm, -⟩ := runScheduled_makes lax twoAndNone ({} : Barred)
    (show [1, 0].Perm (List.range 2) by decide)
  exact ⟨segments, hs, hm, by decide⟩

end Concretize
