import Concretize.Dependencies
import Concretize.Proofs.Decoding

/-!
# The record of dependencies is read back

* `mapOfEntries_perm`: a map made of entries for different paths has all of them and nothing else.
* `readAll_dependencies`: the text that is written for an output reads as a map with exactly the
  records of its files. The nesting never comes near the limit, so this needs no bound.
-/
namespace Concretize

open Json (Decoder Recovers within recovers_bool recovers_list recovers_record recovers_string)

variable {α ι : Type} {bound : Nat}

/-! ## Maps from paths -/

theorem same_symm (p q : Storage.Path) : p.same q = q.same p := by
  simp only [Storage.Path.same, eq_comm]

theorem insertEntry_perm {p : Storage.Path} {a : α} {map : List (Storage.Path × α)}
    (fresh : ∀ e ∈ map, p.same e.1 = false) :
    (insertEntry p a map).Perm ((p, a) :: map) := by
  induction map with
  | nil => exact .refl _
  | cons e map ih =>
    obtain ⟨q, b⟩ := e
    have others := ih fun e he => fresh e (List.mem_cons_of_mem _ he)
    rw [insertEntry, if_neg (by simp [fresh _ List.mem_cons_self])]
    split
    · exact .refl _
    · exact (others.cons _).trans (.swap _ _ _)

theorem foldl_insertEntry_perm {entries : List (Storage.Path × α)} (map : List (Storage.Path × α))
    (distinct : entries.Pairwise fun e f => e.1.same f.1 = false)
    (fresh : ∀ e ∈ entries, ∀ f ∈ map, e.1.same f.1 = false) :
    (entries.foldl (fun map e => insertEntry e.1 e.2 map) map).Perm (entries ++ map) := by
  induction entries generalizing map with
  | nil => exact .refl _
  | cons e entries ih =>
    obtain ⟨first, rest⟩ := List.pairwise_cons.1 distinct
    have inserted := insertEntry_perm (a := e.2) (fresh e List.mem_cons_self)
    have others := ih (insertEntry e.1 e.2 map) rest fun f hf g hg => by
      rcases List.mem_cons.1 (inserted.mem_iff.1 hg) with rfl | hg
      · rw [same_symm]
        exact first f hf
      · exact fresh f (List.mem_cons_of_mem _ hf) g hg
    exact others.trans ((inserted.append_left entries).trans List.perm_middle)

theorem mapOfEntries_perm {entries : List (Storage.Path × α)}
    (distinct : entries.Pairwise fun e f => e.1.same f.1 = false) :
    (mapOfEntries entries).Perm entries := by
  have all := foldl_insertEntry_perm [] distinct nofun
  rw [List.append_nil] at all
  exact all

/-! ## Reading a map -/

/-- A map is recovered if its values are, whatever they were written from. -/
theorem recovers_map {decode : Decoder α} {items : List ι} {key : ι → Storage.Path} {value : ι → α}
    {toJson : ι → Json} (h : ∀ i ∈ items, Recovers bound decode (toJson i) (value i)) :
    Recovers bound (decodeMap decode) (.object (items.map fun i => ((key i).text, toJson i)))
      (mapOfEntries (items.map fun i => (key i, value i))) := by
  intro depth hd
  cases depth with
  | zero => rfl
  | succ depth =>
    have one (i : ι) (hi : i ∈ items) :
        (do return (key i, ← decode depth (Json.reading (toJson i)))) =
          within ((toJson i).nesting ≤ depth) (key i, value i) := by
      rw [h i hi depth (Nat.lt_of_succ_lt hd)]
      exact Json.map_within (key i, ·) (value i)
    have fits : (∀ i ∈ items, (toJson i).nesting ≤ depth) ↔
        Json.nesting.deepestMember (items.map fun i => ((key i).text, toJson i)) ≤ depth := by
      rw [Json.deepestMember_le_iff, List.forall_mem_map]
    have entries := (Json.mapM_within one).trans (Json.within_congr fits _)
    simp only [Json.reading, decodeMap, Json.memberReadings_eq_map, List.map_map, List.mapM_map,
      Json.nesting, Nat.add_le_add_iff_right]
    rw [← Json.map_within mapOfEntries, ← entries]
    exact (map_eq_pure_bind _ _).symm

/-! ## Records -/

/-- What the record of a file says when it is read back. -/
def OutputRecord.dependency (r : OutputRecord) : Dependency where
  aggregating := r.aggregating
  sources := (r.source.map Storage.Path.mk).toList

theorem recovers_dependency (r : OutputRecord) :
    Recovers bound Dependency.decode r.toJson r.dependency := by
  have sources : Recovers bound decodePaths (.array (r.source.toList.map .text))
      r.dependency.sources := by
    have one : r.dependency.sources =
        (mapOfEntries (r.source.toList.map fun p => ((⟨p⟩ : Storage.Path), ()))).map (·.1) := by
      unfold OutputRecord.dependency
      cases r.source <;> rfl
    rw [one]
    exact (recovers_list fun s _ => recovers_string s).map _
  refine recovers_record (r.aggregating, r.dependency.sources, ()) rfl ?_
  exact .head (recovers_bool r.aggregating) (by simp) <| .head sources (by simp) .nil

theorem nesting_toJson_le (r : OutputRecord) : r.toJson.nesting ≤ 2 := by
  obtain ⟨path, aggregating, source⟩ := r
  cases source <;> exact Nat.le_refl 2

/-- The text written for an output is read back as a map that has the record of every file. -/
theorem readAll_dependencies {o : Output}
    (distinct : o.records.Pairwise fun r s => r.path.same s.path = false) :
    ∃ entries, Dependency.readAll o.dependencies.pretty = .ok entries ∧
      entries.Perm (o.records.map fun r => (r.path, r.dependency)) := by
  have recovered : Recovers (Json.depthLimit + 1) (decodeMap Dependency.decode) o.dependencies
      (mapOfEntries (o.records.map fun r => (r.path, r.dependency))) :=
    recovers_map fun r _ => recovers_dependency r
  have shallow : o.dependencies.nesting ≤ Json.depthLimit := by
    have records :
        Json.nesting.deepestMember (o.records.map fun r => (r.path.text, r.toJson)) ≤ 2 :=
      Json.deepestMember_le_iff.2 (List.forall_mem_map.2 fun r _ => nesting_toJson_le r)
    rw [Output.dependencies, Json.nesting]
    exact Nat.le_trans (Nat.succ_le_succ records) (by decide)
  refine ⟨_, ?_, mapOfEntries_perm (List.pairwise_map.2 distinct)⟩
  rw [Dependency.readAll, Json.decodeAll_pretty recovered, within, if_pos shallow]

end Concretize
