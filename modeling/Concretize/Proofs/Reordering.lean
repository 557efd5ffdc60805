import Concretize.Proofs.Outcome
import Concretize.Proofs.Requests

/-!
# Requests in another order

The order in which models are asked for decides in which order hierarchies come out, and nothing
else.

* `specialize_alike`: all bindings of a declaration can be specialized, or none can, for one reason.
* `bindings_perm`: the same requests in another order ask for the same bindings in another order.
* `Outcome.Reordered`: two outcomes that differ in the order of bindings only.
* `process_reordered`: so much may change when requests are permuted.
-/
namespace Concretize

variable {s : Settings} {d : Declaration} {rs : List ModelRequest}

/-! ## Bindings that fail alike -/

/-- What is wrong with the variants is not the fault of a binding. -/
theorem specialize_alike (d : Declaration) (nested : NestedPolicy) (b b' : Binding) :
    ((∃ vs, d.specialize b nested = .ok vs) ↔ ∃ vs, d.specialize b' nested = .ok vs) ∧
      ∀ e, d.specialize b nested = .error e ↔ d.specialize b' nested = .error e := by
  simp only [Declaration.specialize_eq_ok_iff, Declaration.specialize_eq_error_iff, exists_and_left,
    exists_eq, iff_self, implies_true, and_self]

theorem firstFault_asking {e : GenerationError} :
    (d.asking rs).FirstFault s.nested e ↔ d.FirstFault s.nested e := by
  -- Any binding tells, since no fault depends on it.
  let b : Binding := { name := none, type := default }
  rw [← hierarchy_eq_error_iff (b := b), hierarchy_asking, hierarchy_eq_error_iff]

/-! ## The same bindings in another order -/

theorem firstOccurrences_perm {α : Type} [DecidableEq α] {l l' : List α} (h : l.Perm l') :
    (firstOccurrences l).Perm (firstOccurrences l') := by
  refine (List.perm_ext_iff_of_nodup (firstOccurrences_nodup l) (firstOccurrences_nodup l')).2 ?_
  intro a
  rw [mem_firstOccurrences, mem_firstOccurrences, h.mem_iff]

theorem bindings_perm (perm : rs.Perm (d.models.getD [])) :
    (d.asking rs).bindings.Perm d.bindings :=
  (firstOccurrences_perm perm).map ModelRequest.toBinding

/-- Two outcomes that tell the same of bindings in one order and in another: both fail with one
error, in which colliding bindings may be listed in another order, or they give the same hierarchy
for every binding, each list in the order of its bindings and the directives hierarchy by
hierarchy. -/
inductive Outcome.Reordered (bs bs' : List Binding) : Outcome → Outcome → Prop where
  | skipped : Reordered bs bs' .skipped .skipped
  | failed (e : GenerationError) : Reordered bs bs' (.failed e) (.failed e)
  | collision (declaration name : QualifiedName) {cs cs' : List Binding} (h : cs.Perm cs') :
      Reordered bs bs' (.failed (.nameCollision declaration name cs))
        (.failed (.nameCollision declaration name cs'))
  | generated (make : Binding → Hierarchy) (own : ∀ b, (make b).binding = b) :
      Reordered bs bs'
        (.generated ⟨bs.map make, bs.flatMap fun b => (make b).directives⟩)
        (.generated ⟨bs'.map make, bs'.flatMap fun b => (make b).directives⟩)

section Perm
variable (perm : (d.asking rs).bindings.Perm d.bindings)
include perm

theorem collides_of_perm {n : QualifiedName} : (d.asking rs).Collides n ↔ d.Collides n := by
  simp only [Declaration.Collides, perm.mem_iff]
  rfl

theorem leastCollision_of_perm {n : QualifiedName} :
    (d.asking rs).LeastCollision n ↔ d.LeastCollision n := by
  simp only [Declaration.LeastCollision, collides_of_perm perm]

theorem namesPass_of_perm : s.NamesPass (d.asking rs) ↔ s.NamesPass d := by
  simp only [Settings.NamesPass, collides_of_perm perm]

theorem bindings_eq_nil_of_perm : (d.asking rs).bindings = [] ↔ d.bindings = [] := by
  rw [← List.length_eq_zero_iff, perm.length_eq, List.length_eq_zero_iff]

/-! ## What becomes of the declaration -/

theorem reordered_of_failed {e : GenerationError} (h : s.process d = .failed e) :
    Outcome.Reordered d.bindings (d.asking rs).bindings (.failed e) (s.process (d.asking rs)) := by
  cases process_eq_failed_iff.1 h with
  | notClosed unclosed =>
    have same : s.FailsWith (d.asking rs) (.notClosed d.kind d.name) :=
      .notClosed (d := d.asking rs) unclosed
    rw [process_eq_failed_iff.2 same]
    exact .failed _
  | collision closed rejects least =>
    have again := Settings.FailsWith.collision (d := d.asking rs) closed rejects
      ((leastCollision_of_perm perm).2 least)
    rw [process_eq_failed_iff.2 again]
    exact .collision _ _ (perm.symm.filter _)
  | variant closed asked names fault =>
    have asked' : (d.asking rs).bindings ≠ [] :=
      fun none => asked ((bindings_eq_nil_of_perm perm).1 none)
    have same := Settings.FailsWith.variant (d := d.asking rs) closed asked'
      ((namesPass_of_perm perm).2 names) (firstFault_asking.2 fault)
    rw [process_eq_failed_iff.2 same]
    exact .failed _

theorem reordered_of_generated {g : Generation} (h : s.process d = .generated g) :
    Outcome.Reordered d.bindings (d.asking rs).bindings (.generated g)
      (s.process (d.asking rs)) := by
  obtain ⟨closed, asked, names, clean, rfl⟩ := process_eq_generated_iff.1 h
  have again : s.process (d.asking rs) = .generated (s.generation (d.asking rs)) := by
    refine process_eq_generated_iff.2 ⟨closed, ?_, (namesPass_of_perm perm).2 names, ?_, rfl⟩
    · exact fun none => asked ((bindings_eq_nil_of_perm perm).1 none)
    · simpa only [firstFault_asking] using clean
  rw [again, Settings.generation, Settings.generation, List.flatMap_map, List.flatMap_map]
  exact .generated (s.realize d) fun b => rfl

end Perm

/-- **Order of requests.** Whether a declaration can be specialized, and the error if it cannot, is
the same for all bindings. If its models are asked for in another order, its bindings come in
another order, and with them the hierarchies and their directives. Everything else stays: a
declaration that was skipped is skipped, and one that failed fails with the same error, up to the
order in which colliding bindings are listed. -/
theorem process_reordered (s : Settings) (d : Declaration) (perm : rs.Perm (d.models.getD [])) :
    (∀ nested b b',
      ((∃ vs, d.specialize b nested = .ok vs) ↔ ∃ vs, d.specialize b' nested = .ok vs) ∧
        ∀ e, d.specialize b nested = .error e ↔ d.specialize b' nested = .error e) ∧
    (d.asking rs).bindings.Perm d.bindings ∧
    Outcome.Reordered d.bindings (d.asking rs).bindings (s.process d)
      (s.process (d.asking rs)) := by
  have bindings := bindings_perm perm
  refine ⟨specialize_alike d, bindings, ?_⟩
  cases outcome : s.process d with
  | skipped =>
    obtain ⟨closed, none⟩ := process_eq_skipped_iff.1 outcome
    have again : s.process (d.asking rs) = .skipped :=
      process_eq_skipped_iff.2 ⟨closed, (bindings_eq_nil_of_perm bindings).2 none⟩
    rw [again]
    exact .skipped
  | failed e => exact reordered_of_failed bindings outcome
  | generated g => exact reordered_of_generated bindings outcome

/-- A text and, under the same generated name, a number. -/
def clashing : Declaration where
  name := ⟨"app.UIState"⟩
  kind := .interface
  modifiers := [.isSealed]
  models := some
    [{ type := { path := ⟨"kotlin.String"⟩ } },
     { name := "string", type := { path := ⟨"kotlin.Int"⟩ } }]

theorem clashing_reordered :
    let text : ModelRequest := { type := { path := ⟨"kotlin.String"⟩ } }
    let number : ModelRequest := { name := "string", type := { path := ⟨"kotlin.Int"⟩ } }
    let turned := clashing.asking [number, text]
    turned.bindings = clashing.bindings.reverse ∧
      ({} : Settings).process clashing = .failed
        (.nameCollision ⟨"app.UIState"⟩ ⟨"app.StringUIState"⟩ clashing.bindings) ∧
      Outcome.Reordered clashing.bindings turned.bindings (({} : Settings).process clashing)
        (({} : Settings).process turned) :=
  ⟨by decide, by decide +kernel, (process_reordered {} clashing (by decide)).2.2⟩

end Concretize
