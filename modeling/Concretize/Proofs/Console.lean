import Concretize.Console
import Concretize.Generation
import Concretize.Proofs.Pass
import Mathlib.Data.List.Pairwise

/-!
# What reaches the console

The fields of a record are noted in the order in which they come, each in a slot of its own, and the
line is made from the slots. An emitter may put events of its own between those of a pass.

* `noteAll_perm`: the order of fields with different names leaves no trace.
* `line?_ne_none`, `line?_of_message`: what a line is made for, and what it contains.
* `runScheduled_announces`: every diagnostic that a pass hands over has a line of its own on the
  console, in the same order.
* `console_shows`: all of it together. `numberedEvent_silent` is a warning that is not shown: its
  event is a number, for which there is no slot.
-/
namespace Concretize

open Console

namespace Console

variable {s : Slots} {fields : List (Field × Value)} {clock m : String} {level : Level}

/-! ## Fields -/

/-- No two fields have the same name. Names that the console does not show are not told apart. -/
def Distinct (fields : List (Field × Value)) : Prop :=
  fields.Pairwise fun x y => x.1 = y.1 → x.1 = .other

/-- Fields with different names go to different slots. -/
theorem note_note {f g : Field} (h : f = g → f = .other) (v w : Value) :
    (s.note f v).note g w = (s.note g w).note f v := by
  cases f <;> cases v <;> try rfl
  all_goals cases g <;> cases w <;> first | rfl | exact absurd (h rfl) nofun

theorem noteAll_perm {fields' : List (Field × Value)} (h : Distinct fields)
    (perm : fields.Perm fields') : s.noteAll fields = s.noteAll fields' := by
  have apart : ∀ x ∈ fields, ∀ y ∈ fields, ∀ z : Slots,
      (z.note x.1 x.2).note y.1 y.2 = (z.note y.1 y.2).note x.1 x.2 :=
    List.Pairwise.forall_of_forall_of_flip (fun _ _ _ => rfl)
      (h.imp fun apart _ => note_note apart _ _) (h.imp fun apart _ => (note_note apart _ _).symm)
  exact perm.foldl_eq' apart s

/-- A field counts as if it had come last. -/
theorem noteAll_of_mem {x : Field × Value} (h : Distinct fields) (hx : x ∈ fields) :
    ∃ before : Slots, s.noteAll fields = before.note x.1 x.2 := by
  obtain ⟨xs, ys, rfl⟩ := List.append_of_mem hx
  have last : (xs ++ x :: ys).Perm (xs ++ ys ++ [x]) :=
    List.perm_middle.trans (List.perm_append_singleton x _).symm
  refine ⟨s.noteAll (xs ++ ys), ?_⟩
  rw [noteAll_perm h last, Slots.noteAll, List.foldl_append]
  rfl

/-- Nothing that is noted later empties the slots that make a line. -/
theorem isSome_note (f : Field) (v : Value) :
    (s.event.isSome → (s.note f v).event.isSome) ∧
      (s.message.isSome → (s.note f v).message.isSome) := by
  cases f <;> cases v <;> simp [Slots.note]

theorem isSome_noteAll (s : Slots) (fields : List (Field × Value)) :
    (s.event.isSome → (s.noteAll fields).event.isSome) ∧
      (s.message.isSome → (s.noteAll fields).message.isSome) := by
  induction fields generalizing s with
  | nil => exact ⟨id, id⟩
  | cons x fields ih =>
    obtain ⟨event, message⟩ := isSome_note (s := s) x.1 x.2
    obtain ⟨events, messages⟩ := ih (s.note x.1 x.2)
    exact ⟨events ∘ event, messages ∘ message⟩

theorem isSome_of_mem (h : (.event, .text m) ∈ fields ∨ (.message, .text m) ∈ fields) :
    (s.noteAll fields).event.isSome ∨ (s.noteAll fields).message.isSome := by
  rcases h with h | h
  · obtain ⟨xs, ys, rfl⟩ := List.append_of_mem h
    rw [Slots.noteAll, List.foldl_append]
    exact .inl ((isSome_noteAll _ ys).1 rfl)
  · obtain ⟨xs, ys, rfl⟩ := List.append_of_mem h
    rw [Slots.noteAll, List.foldl_append]
    exact .inr ((isSome_noteAll _ ys).2 rfl)

/-! ## Lines -/

/-- The events that have a format of their own. -/
def formattedEvents : List String :=
  ["generate_start", "generate_end", "declaration_skipped", "output_written",
    "generation_written", "name_collision", "output_overwritten", "worker_pool_unavailable"]

theorem formattedLine?_eq_none_iff {event : String} :
    formattedLine? clock level s event = none ↔ event ∉ formattedEvents := by
  unfold formattedLine?
  dsimp only
  split <;> simp_all [formattedEvents]

/-- The line is the one for the event, if its event has a format of its own. -/
theorem line?_of_plain (h : ∀ e, s.event = some e → e ∉ formattedEvents) :
    line? clock level s = plainLine? clock level s := by
  unfold line?
  cases event : s.event with
  | none => rfl
  | some e =>
    rw [Option.bind_some, formattedLine?_eq_none_iff.2 (h e event), Option.none_or]

theorem ne_empty_append {t u : String} (h : t ≠ "") : t ++ u ≠ "" := by
  intro empty
  exact h (String.append_eq_empty_iff.1 empty).1

theorem opening_ne_empty (clock : String) (level : Level) : opening clock level ≠ "" := by
  unfold opening painted rendition
  exact ne_empty_append (ne_empty_append (ne_empty_append (ne_empty_append
    (ne_empty_append (ne_empty_append (by decide))))))

/-- There is something to read in every line. -/
theorem line?_ne_empty {line : String} (h : line? clock level s = some line) : line ≠ "" := by
  have opened (rest : String) : opening clock level ++ rest ≠ "" :=
    ne_empty_append (opening_ne_empty clock level)
  rcases Option.or_eq_some_iff.1 h with h | ⟨-, h⟩
  · obtain ⟨event, -, h⟩ := Option.bind_eq_some_iff.1 h
    unfold formattedLine? at h
    dsimp only at h
    split at h
    all_goals cases h
    all_goals simp [opening_ne_empty]
  · unfold plainLine? at h
    split at h
    · cases h
      exact opened _
    · split at h
      · cases h
        rw [String.append_assoc]
        exact opened _
      · cases h
    · cases h

/-- A message is shown, unless its event has a format of its own. -/
theorem line?_of_message (plain : ∀ e, s.event = some e → e ∉ formattedEvents)
    (h : s.message = some m) : line? clock level s = some (opening clock level ++ m) := by
  rw [line?_of_plain plain, plainLine?, h]

/-- Warnings and errors are shown if there is an event or a message to show. -/
theorem line?_ne_none_iff (h : level.reaches .warn) :
    line? clock level s ≠ none ↔ s.event.isSome ∨ s.message.isSome := by
  have plain : plainLine? clock level s ≠ none ↔ s.event.isSome ∨ s.message.isSome := by
    unfold plainLine?
    cases s.message <;> cases s.event <;> simp [h]
  unfold line?
  rw [ne_eq, Option.or_eq_none_iff, not_and_or, ← ne_eq (plainLine? ..), plain]
  constructor
  · rintro (formatted | shown)
    · cases event : s.event with
      | none => simp [event] at formatted
      | some e => exact .inl rfl
    · exact shown
  · exact .inr

end Console

/-! ## Diagnostics of a pass -/

section Pass
variable {σ : Type} [Emitter σ] {s : Settings} {d : Declaration} {clock : String}
  {filter : Option Filter}

/-- The target of the events of a pass. -/
def passTarget : String := "sealforge_core::generator"

/-- The line for a diagnostic of a pass. -/
def diagnosticLine (clock : String) (x : Diagnostic) : String := opening clock .warn ++ x.display

/-- The diagnostic that a step hands over, if it does. -/
def Step.report? : Step → Option Diagnostic
  | .report x => some x
  | _ => none

/-- The diagnostic that a call hands over, if it does. -/
def Call.report? : Call → Option Diagnostic
  | .report x => some x
  | .offer .. => none

theorem report?_step (c : Call) : c.step.report? = c.report? := by
  rcases c with ⟨o, _⟩ | _
  · cases o <;> rfl
  · rfl

theorem dropWhile_quote {cs : List Char} (h : cs.head? ≠ some '"') :
    cs.dropWhile (fun c => c = '"') = cs := by
  cases cs with
  | nil => rfl
  | cons c cs =>
    refine List.dropWhile_cons_of_neg fun quote => h ?_
    rw [List.head?_cons, of_decide_eq_true quote]

/-- A text is recorded as it is unless a quote begins or ends it. -/
theorem unquoted_eq_text {text : String} (first : text.toList.head? ≠ some '"')
    (last : text.toList.getLast? ≠ some '"') : Value.unquoted text = .text text := by
  rw [← List.head?_reverse] at last
  simp only [Value.unquoted, dropWhile_quote first, dropWhile_quote last, List.reverse_reverse,
    String.ofList_toList]

/-- The text of a diagnostic begins with its severity and ends with a bracket. -/
theorem unquoted_display (x : Diagnostic) : Value.unquoted x.display = .text x.display := by
  have label : ∃ c cs, x.severity.label.toList = c :: cs ∧ c ≠ '"' := by
    cases x.severity <;> exact ⟨_, _, rfl, by decide⟩
  have bracket : "`)".toList.getLast? = some ')' := by decide
  refine unquoted_eq_text ?_ ?_
  · obtain ⟨c, cs, label, plain⟩ := label
    simpa only [Diagnostic.display, String.toList_append, label, List.cons_append, List.head?_cons,
      ne_eq, Option.some_inj] using plain
  · rw [Diagnostic.display, String.toList_append, List.getLast?_append, bracket, Option.some_or]
    decide

/-- The console shows the diagnostic of a failure, or of a refusal, in full. -/
theorem line?_diagnosed {filter : Option Filter} (admitted : filter.all (·.admits passTarget .warn))
    (x : Diagnostic) {event : String} (plain : event ∉ formattedEvents) :
    ({ level := .warn, target := passTarget,
       fields := [(.message, .unquoted x.display), (.event, .text event)] } : Record).line? clock
      filter = some (diagnosticLine clock x) := by
  have own : isOwnTarget passTarget = true := by decide
  rw [Record.line?, if_pos (by rw [admitted, own]; rfl), unquoted_display]
  exact line?_of_message (by rintro _ ⟨⟩; exact plain) rfl

/-! ### Steps -/

/-- Every diagnostic that the steps hand over has a line of its own among those of their events, in
the same order. -/
def Announced (clock : String) (filter : Option Filter) (steps : List Step) : Prop :=
  ((steps.filterMap Step.report?).map (diagnosticLine clock)).Sublist
    (linesOf clock filter (steps.filterMap Step.event?))

theorem Announced.append {steps steps' : List Step} (h : Announced clock filter steps)
    (h' : Announced clock filter steps') : Announced clock filter (steps ++ steps') := by
  unfold Announced linesOf at *
  simp only [List.filterMap_append, List.map_append]
  exact List.Sublist.append h h'

/-- Where nothing is handed over, nothing is to be shown. -/
theorem announced_of_quiet {steps : List Step} (h : ∀ step ∈ steps, step.report? = none) :
    Announced clock filter steps := by
  unfold Announced
  rw [List.filterMap_eq_nil_iff.2 h]
  exact List.nil_sublist _

theorem announced_events (events : List Event) :
    Announced clock filter (events.map Step.event) := by
  refine announced_of_quiet fun step hs => ?_
  obtain ⟨x, -, rfl⟩ := List.mem_map.1 hs
  rfl

theorem announced_step {step : Step} (h : step.report? = none) :
    Announced clock filter [step] :=
  announced_of_quiet fun _ hs => List.mem_singleton.1 hs ▸ h

/-- An event with the line of a diagnostic announces it. -/
theorem announced_handOver {event : Event} {x : Diagnostic} (e : σ)
    (h : event.record.line? clock filter = some (diagnosticLine clock x)) :
    Announced clock filter (.event event :: (handOver x e).steps) := by
  have told : Announced clock filter [.event event, .report x] := by
    change [diagnosticLine clock x].Sublist (linesOf clock filter [event])
    rw [linesOf, List.filterMap_cons, h]
    exact .refl _
  exact told.append (announced_events (Emitter.report x e).1)

section Admitted
variable (admitted : filter.all (·.admits passTarget .warn))
include admitted

theorem announced_reportRefusal (refusal : Option GenerationError) (e : σ) :
    Announced clock filter (reportRefusal d refusal e).steps := by
  cases refusal with
  | none => exact announced_events []
  | some x => exact announced_handOver e (line?_diagnosed admitted _ (by decide))

theorem announced_offer (o : Offer) (e : σ) :
    Announced clock filter (d.offer o e).steps := by
  have quiet : (Call.offer o (o.make e).1.refusal).step.report? = none := report?_step _
  exact (announced_step quiet).append ((announced_events _).append
    (announced_reportRefusal admitted _ _))

theorem announced_offerHierarchies (hs : List Hierarchy) (e : σ) :
    Announced clock filter (offerHierarchies d hs e).steps := by
  induction hs generalizing e with
  | nil => exact announced_events []
  | cons h hs ih => exact (announced_offer admitted (.hierarchy h d.origin) e).append (ih _)

theorem announced_emitOutcome (outcome : Outcome) (e : σ) :
    Announced clock filter (emitOutcome d outcome e).steps := by
  cases outcome with
  | skipped => exact announced_step rfl
  | failed x => exact announced_handOver e (line?_diagnosed admitted _ (by decide))
  | generated g =>
    exact (announced_offerHierarchies admitted g.hierarchies e).append
      (announced_offer admitted (.retention d.name g.directives d.origin) _)

theorem announced_emitOutcomes (outcomes : List (Declaration × Outcome)) (e : σ) :
    Announced clock filter (emitOutcomes outcomes e).steps := by
  induction outcomes generalizing e with
  | nil => exact announced_events []
  | cons p rest ih => exact (announced_emitOutcome admitted p.2 e).append (ih _)

theorem announced_runScheduled (schedule : List Nat) (ds : List Declaration) (e : σ) :
    Announced clock filter (s.runScheduled schedule ds e).steps := by
  have emitted : Announced clock filter
      (emitOutcomes (ds.zip (s.processAll schedule ds)) e).steps :=
    announced_emitOutcomes admitted _ e
  exact (((announced_step rfl).append (announced_events _)).append emitted).append
    (announced_step rfl)

/-- The failures and refusals of a pass, segment by segment, and a line for each of them. -/
theorem runScheduled_announces {schedule : List Nat} {ds : List Declaration}
    (h : schedule.Perm (List.range ds.length)) (e : σ) :
    ∃ segments, List.Forall₂ (fun d cs => Segment d (s.process d) cs) ds segments ∧
      (s.runScheduled schedule ds e).Makes e segments.flatten ∧
      ((segments.flatten.filterMap Call.report?).map (diagnosticLine clock)).Sublist
        (linesOf clock filter
          ((s.runScheduled schedule ds e).steps.filterMap Step.event?)) := by
  obtain ⟨segments, hs, made⟩ := emitOutcomes_makes (ds.map fun d => (d, s.process d)) e
  rw [List.forall₂_map_left_iff] at hs
  have made := makes_runScheduled (s := s) h made
  refine ⟨segments, hs, made, ?_⟩
  rw [← made.filterMap (fun _ => rfl) report?_step]
  exact announced_runScheduled admitted schedule ds e

end Admitted

end Pass

/-- **What reaches the console.** In whatever state the slots are, fields with different names may be
recorded in any order. A warning or an error with an event or a message that is a text has a line,
and there is something to read in it. A message that is a text is contained in the line, unless the
event has a format of its own. Of a pass, under a filter that admits its warnings, every failure and
every refused output has a line of its own, with its diagnostic in full. -/
theorem console_shows (clock : String) :
    (∀ (level : Level) (s : Slots) (fields fields' : List (Field × Value)),
      Distinct fields → fields.Perm fields' →
        line? clock level (s.noteAll fields) = line? clock level (s.noteAll fields')) ∧
    (∀ (level : Level) (s : Slots) (fields : List (Field × Value)),
      level = .warn ∨ level = .error →
      (∃ text, (.event, .text text) ∈ fields ∨ (.message, .text text) ∈ fields) →
        ∃ line, line? clock level (s.noteAll fields) = some line ∧ line ≠ "") ∧
    (∀ (level : Level) (s : Slots) (fields : List (Field × Value)) (text : String),
      Distinct fields → (.message, .text text) ∈ fields →
      (∀ e, (s.noteAll fields).event = some e → e ∉ formattedEvents) →
        ∃ line, line? clock level (s.noteAll fields) = some line ∧
          text.toList <:+: line.toList) ∧
    ∀ {σ : Type} [Emitter σ] (s : Settings) (schedule : List Nat) (ds : List Declaration) (e : σ)
      (filter : Option Filter), schedule.Perm (List.range ds.length) →
      filter.all (·.admits passTarget .warn) →
        ∃ segments, List.Forall₂ (fun d cs => Segment d (s.process d) cs) ds segments ∧
          (s.runScheduled schedule ds e).Makes e segments.flatten ∧
          ((segments.flatten.filterMap Call.report?).map (diagnosticLine clock)).Sublist
            (linesOf clock filter
              ((s.runScheduled schedule ds e).steps.filterMap Step.event?)) ∧
          ∀ x : Diagnostic, x.display.toList <:+: (diagnosticLine clock x).toList := by
  refine ⟨fun level s fields fields' distinct perm => by rw [noteAll_perm distinct perm],
    fun level s fields grave told => ?_, fun level s fields text distinct told plain => ?_,
    fun s schedule ds e filter order admitted => ?_⟩
  · obtain ⟨text, told⟩ := told
    have reaches : level.reaches .warn := by rcases grave with rfl | rfl <;> rfl
    have some : line? clock level (s.noteAll fields) ≠ none :=
      (line?_ne_none_iff reaches).2 (isSome_of_mem told)
    obtain ⟨line, shown⟩ := Option.ne_none_iff_exists'.1 some
    exact ⟨line, shown, line?_ne_empty shown⟩
  · obtain ⟨before, last⟩ := noteAll_of_mem (s := s) distinct told
    have kept : (s.noteAll fields).message = some text := by rw [last]; rfl
    refine ⟨_, line?_of_message plain kept, ?_⟩
    rw [String.toList_append]
    exact (List.suffix_append _ _).isInfix
  · obtain ⟨segments, hs, made, told⟩ := runScheduled_announces admitted order e
    refine ⟨segments, hs, made, told, fun x => ?_⟩
    rw [diagnosticLine, String.toList_append]
    exact (List.suffix_append _ _).isInfix

/-- A warning of an event without a format, with a count under a name that may also hold a text. -/
def halfDone : List (Field × Value) :=
  [(.message, .text "half done"), (.event, .text "stalled"), (.generated, .natural 2)]

theorem halfDone_shown :
    (Distinct halfDone ∧ halfDone.Perm halfDone.reverse ∧
      line? "TIME" .warn (({} : Slots).noteAll halfDone) =
        line? "TIME" .warn (({} : Slots).noteAll halfDone.reverse)) ∧
    ((.event, .text "stalled") ∈ halfDone ∧
      ∃ line, line? "TIME" .warn (({} : Slots).noteAll halfDone) = some line ∧ line ≠ "") ∧
    ((.message, .text "half done") ∈ halfDone ∧
      (∀ e, (({} : Slots).noteAll halfDone).event = some e → e ∉ formattedEvents) ∧
      ∃ line, line? "TIME" .warn (({} : Slots).noteAll halfDone) = some line ∧
        "half done".toList <:+: line.toList) ∧
    ([1, 0].Perm (List.range twoAndNone.length) ∧
      (some Filter.standard).all (·.admits passTarget .warn) ∧
      ∃ segments, List.Forall₂ (fun d cs => Segment d (lax.process d) cs) twoAndNone segments ∧
        ((segments.flatten.filterMap Call.report?).map (diagnosticLine "TIME")).Sublist
          (linesOf "TIME" (some Filter.standard)
            ((lax.runScheduled [1, 0] twoAndNone ({} : Barred)).steps.filterMap Step.event?))) := by
  have distinct : Distinct halfDone := by
    unfold Distinct
    decide
  have perm : halfDone.Perm halfDone.reverse := (List.reverse_perm _).symm
  have event : (.event, .text "stalled") ∈ halfDone := by decide
  have message : (.message, .text "half done") ∈ halfDone := by decide
  have plain : ∀ e, (({} : Slots).noteAll halfDone).event = some e → e ∉ formattedEvents := by
    rintro _ ⟨⟩
    decide
  have order : [1, 0].Perm (List.range twoAndNone.length) := by decide
  have admitted : (some Filter.standard).all (·.admits passTarget .warn) := by decide
  obtain ⟨orders, lines, messages, passes⟩ := console_shows "TIME"
  obtain ⟨segments, hs, -, told, -⟩ := passes lax [1, 0] twoAndNone ({} : Barred) _ order admitted
  exact ⟨⟨distinct, perm, orders .warn {} _ _ distinct perm⟩,
    ⟨event, lines .warn {} _ (.inl rfl) ⟨_, .inl event⟩⟩,
    ⟨message, plain, messages .warn {} _ _ distinct message plain⟩,
    order, admitted, segments, hs, told⟩

/-- A warning whose event is a number has no line. Of a message that is recorded with its quotes,
the line has what is between them. -/
theorem numberedEvent_silent :
    (Distinct [(.event, .natural 5)] ∧
      line? "TIME" .warn (({} : Slots).noteAll [(.event, .natural 5)]) = none) ∧
    ∃ line, line? "TIME" .info (({} : Slots).noteAll [(.message, .ofQuoted "done")]) = some line ∧
      ¬ (Text.quoted "done").toList <:+: line.toList := by
  have distinct : Distinct [(.event, .natural 5)] := List.pairwise_singleton ..
  have quoted : '"' ∈ (Text.quoted "done").toList := by decide
  have shown : '"' ∉ (opening "TIME" .info ++ "done").toList := by decide
  exact ⟨⟨distinct, by decide⟩, _, rfl, fun h => shown (h.mem quoted)⟩

end Concretize
