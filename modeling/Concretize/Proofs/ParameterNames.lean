import Concretize.SourceFile
import Mathlib.Data.List.Nodup

/-!
# The names of constructor parameters

A parameter without a name is printed under a stand-in, `param` and its index. Stand-ins of
different indices differ, and declared names are printed as they are. A stand-in can only meet a
declared name, and nothing keeps a declaration from using one.

* `printedNames_nodup_iff`: parameters that are declared under different names are printed under
  different names exactly if no stand-in is also declared. `shadowedPage_repeats` shows one that is.
-/
namespace Concretize

/-- The name under which the unnamed parameter at an index is printed. -/
def standIn (index : Nat) : String := "param" ++ toString index

theorem standIn_injective {i j : Nat} (h : standIn i = standIn j) : i = j := by
  have digits := congrArg String.toList h
  simp only [standIn, String.toList_append] at digits
  have same := List.append_cancel_left digits
  have value := congrArg (fun ds => Nat.ofDigitChars 10 ds 0) same
  simpa [Nat.toString_eq_ofList_toDigits] using value

section
variable {ps : List Parameter}

/-- The names that parameters declare. -/
def declaredNames (ps : List Parameter) : List String := ps.filterMap (·.name)

/-- The names under which parameters are printed. -/
def printedNames (ps : List Parameter) : List String :=
  ps.zipIdx.map fun (p, index) => p.displayName index

/-- No parameter is declared under the stand-in of one that has no name. -/
def StandInsFree (ps : List Parameter) : Prop :=
  ∀ (i : Nat) (hi : i < ps.length), ps[i].name = none → standIn i ∉ declaredNames ps

instance : Decidable (StandInsFree ps) := by
  unfold StandInsFree
  infer_instance

theorem displayName_of_some {p : Parameter} {name : String} (h : p.name = some name) (i : Nat) :
    p.displayName i = name := by
  rw [Parameter.displayName, h, Option.getD_some]

theorem displayName_of_none {p : Parameter} (h : p.name = none) (i : Nat) :
    p.displayName i = standIn i := by
  rw [Parameter.displayName, h, Option.getD_none, standIn]

theorem mem_declaredNames {name : String} :
    name ∈ declaredNames ps ↔ ∃ (i : Nat) (hi : i < ps.length), ps[i].name = some name := by
  rw [declaredNames, List.mem_filterMap]
  constructor
  · rintro ⟨p, hp, hn⟩
    obtain ⟨i, hi, rfl⟩ := List.getElem_of_mem hp
    exact ⟨i, hi, hn⟩
  · rintro ⟨i, hi, hn⟩
    exact ⟨ps[i], List.getElem_mem hi, hn⟩

theorem printedNames_nodup :
    (printedNames ps).Nodup ↔ ∀ (i j : Nat) (hi : i < ps.length) (hj : j < ps.length), i < j →
      ps[i].displayName i ≠ ps[j].displayName j := by
  rw [printedNames, List.Nodup, List.pairwise_map, List.pairwise_iff_getElem]
  simp

theorem declaredNames_nodup :
    (declaredNames ps).Nodup ↔ ∀ (i j : Nat) (hi : i < ps.length) (hj : j < ps.length), i < j →
      ∀ name, ps[i].name = some name → ps[j].name ≠ some name := by
  rw [declaredNames, List.Nodup, List.pairwise_filterMap, List.pairwise_iff_getElem]
  refine forall₅_congr fun i j hi hj _ => ⟨fun h name hn hm => h name hn name hm rfl, ?_⟩
  rintro h name hn _ hm rfl
  exact h name hn hm

/-- Of two parameters that are printed alike one is unnamed and the other one declares its
stand-in, unless both declare the name. -/
theorem meets_standIn {i j : Nat} (hi : i < ps.length) (hj : j < ps.length) (hne : i ≠ j)
    (declared : ∀ name, ps[i].name = some name → ps[j].name ≠ some name)
    (h : ps[i].displayName i = ps[j].displayName j) : ¬ StandInsFree ps := by
  intro free
  cases hp : ps[i].name with
  | none =>
    cases hq : ps[j].name with
    | none =>
      rw [displayName_of_none hp, displayName_of_none hq] at h
      exact hne (standIn_injective h)
    | some name =>
      rw [displayName_of_none hp, displayName_of_some hq] at h
      exact free i hi hp (mem_declaredNames.2 ⟨j, hj, h ▸ hq⟩)
  | some name =>
    cases hq : ps[j].name with
    | none =>
      rw [displayName_of_some hp, displayName_of_none hq] at h
      exact free j hj hq (mem_declaredNames.2 ⟨i, hi, h ▸ hp⟩)
    | some other =>
      rw [displayName_of_some hp, displayName_of_some hq] at h
      exact declared name hp (h ▸ hq)

theorem printedNames_nodup_of_free (distinct : (declaredNames ps).Nodup) (free : StandInsFree ps) :
    (printedNames ps).Nodup := by
  refine printedNames_nodup.2 fun i j hi hj hij h => ?_
  have declared := declaredNames_nodup.1 distinct i j hi hj hij
  exact meets_standIn hi hj (Nat.ne_of_lt hij) declared h free

theorem free_of_printedNames_nodup (h : (printedNames ps).Nodup) : StandInsFree ps := by
  rw [printedNames_nodup] at h
  intro i hi unnamed taken
  obtain ⟨j, hj, hn⟩ := mem_declaredNames.1 taken
  have same : ps[i].displayName i = ps[j].displayName j := by
    rw [displayName_of_none unnamed, displayName_of_some hn]
  rcases Nat.lt_trichotomy i j with hij | rfl | hij
  · exact h i j hi hj hij same
  · rw [unnamed] at hn
    cases hn
  · exact h j i hj hi hij same.symm

end

theorem names_source {v : GeneratedVariant} (h : v.declaration.kind = .klass) :
    v.source.parameters.map (·.name) = printedNames v.declaration.parameters := by
  simp [GeneratedVariant.source, h, printedNames, Parameter.source, Function.comp_def]

/-- **Parameter names.** A class variant of a hierarchy that declares different names for its
parameters is printed with different names for them exactly if none of the declared ones is the
stand-in of an unnamed parameter. -/
theorem printedNames_nodup_iff {h : Hierarchy} {v : GeneratedVariant} (listed : v ∈ h.variants)
    (constructed : v.declaration.kind = .klass)
    (distinct : (declaredNames v.declaration.parameters).Nodup) :
    v.source ∈ h.sourceFile.variants ∧
      ((v.source.parameters.map (·.name)).Nodup ↔ StandInsFree v.declaration.parameters) := by
  refine ⟨List.mem_map_of_mem listed, ?_⟩
  rw [names_source constructed]
  exact ⟨free_of_printedNames_nodup, printedNames_nodup_of_free distinct⟩

/-- A class below `app.TextPage`. -/
def pageVariant (parameters : List Parameter) : GeneratedVariant where
  declaration := { name := "Loaded", kind := .klass, parameters }
  supertype := .implements ⟨"app.TextPage"⟩

/-- A specialized interface with one class. -/
def textPage (parameters : List Parameter) : Hierarchy where
  name := ⟨"app.TextPage"⟩
  source := ⟨"app.Page"⟩
  kind := .interface
  modifiers := [.isSealed]
  markers := []
  binding := ⟨none, { path := ⟨"app.Text"⟩ }⟩
  variants := [pageVariant parameters]

/-- A parameter of type `app.Text`. -/
def textParameter (name : Option String) : Parameter where
  name := name
  type := .concrete ⟨"app.Text"⟩ [] false

/-- A declared `param1` in front of two unnamed parameters takes the name of the first of them. -/
theorem shadowedPage_repeats :
    ¬ ∀ (h : Hierarchy), ∀ v ∈ h.variants, v.declaration.kind = .klass →
      (declaredNames v.declaration.parameters).Nodup →
      (v.source.parameters.map (·.name)).Nodup := by
  intro all
  have distinct := all (textPage [textParameter (some "param1"), textParameter none]) _
    List.mem_cons_self rfl (by decide)
  exact absurd distinct (by decide)

/-- The stand-ins of the unnamed parameters are `param0` and `param2`. -/
theorem mixedPage_distinct :
    let ps := [textParameter none, textParameter (some "param1"), textParameter none]
    (pageVariant ps).source ∈ (textPage ps).sourceFile.variants ∧
      (pageVariant ps).source.parameters.map (·.name) = ["param0", "param1", "param2"] ∧
      ((pageVariant ps).source.parameters.map (·.name)).Nodup := by
  intro ps
  obtain ⟨written, exact⟩ := printedNames_nodup_iff (h := textPage ps) (v := pageVariant ps)
    List.mem_cons_self rfl (by decide)
  exact ⟨written, by decide, exact.2 (by decide)⟩

end Concretize
