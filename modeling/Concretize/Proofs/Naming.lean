import Concretize.Naming
import Concretize.Proofs.Binding
import Concretize.Proofs.QualifiedName

/-!
# What generated names are made of

A generated name has the characters of the declaration, of its separators and of the capitalized
name of the binding. Capitalizing adds letters and marks only (`mem_capitalizeFirst`), so whatever
character below the letters a generated name has was given to it: `mem_generatedName`.
-/
namespace Concretize

namespace Text

/-- A character from the capital letters upwards. -/
def IsHigh (c : Char) : Prop := 0x40 < c.toNat

instance (c : Char) : Decidable (IsHigh c) := inferInstanceAs (Decidable (0x40 < c.toNat))

/-! ## Case mappings -/

/-- The images of a shift, all of which are characters, lie above the signs and digits. -/
def Shift.IsHigh (s : Shift) : Prop :=
  0x40 < s.distance + s.run.first ∧
    (s.distance + s.run.last < 0xD800 ∨
      0xDFFF < s.distance + s.run.first ∧ s.distance + s.run.last < 0x110000)

instance (s : Shift) : Decidable s.IsHigh :=
  inferInstanceAs (Decidable (_ ∧ (_ ∨ _ ∧ _)))

theorem isHigh_upperShifts : ∀ s ∈ upperShifts, s.IsHigh := by decide +kernel

theorem isHigh_lowerShifts : ∀ s ∈ lowerShifts, s.IsHigh := by decide +kernel

theorem isHigh_upperExpansions :
    ∀ e ∈ upperExpansions, ∀ u ∈ e.2, IsHigh (Char.ofNat u) := by decide +kernel

theorem isHigh_ofNat {u : Nat} (h : 0x40 < u) (hv : u < 0xD800 ∨ 0xDFFF < u ∧ u < 0x110000) :
    IsHigh (Char.ofNat u) := by
  have valid : u.isValidChar := hv
  rw [IsHigh, Char.ofNat, dif_pos valid]
  exact h

theorem isHigh_of_shifted? {table : List Shift} (ht : ∀ s ∈ table, s.IsHigh) {c u : Nat}
    (h : shifted? table c = some u) : IsHigh (Char.ofNat u) := by
  obtain ⟨s, hs, rfl⟩ := Option.map_eq_some_iff.1 h
  obtain ⟨low, high⟩ := ht s (List.mem_of_find?_eq_some hs)
  have member := List.find?_some hs
  simp only [Run.contains, Bool.and_eq_true, decide_eq_true_eq] at member
  refine isHigh_ofNat ?_ ?_ <;> omega

theorem mem_upper {c d : Char} (h : d ∈ upper c) : d = c ∨ IsHigh d := by
  unfold upper at h
  split at h
  · next u hu =>
    rw [List.mem_singleton.1 h]
    exact .inr (isHigh_of_shifted? isHigh_upperShifts hu)
  · split at h
    · next us hus =>
      obtain ⟨u, hu, rfl⟩ := List.mem_map.1 h
      obtain ⟨before, after, table, -⟩ := List.lookup_eq_some_iff.1 hus
      have listed : (c.toNat, us) ∈ upperExpansions := by rw [table]; simp
      exact .inr (isHigh_upperExpansions _ listed u hu)
    · exact .inl (List.mem_singleton.1 h)

theorem mem_lower {c d : Char} (h : d ∈ lower c) : d = c ∨ IsHigh d := by
  unfold lower at h
  split at h
  · rcases List.mem_cons.1 h with rfl | h
    · exact .inr (by decide)
    · rw [List.mem_singleton.1 h]
      exact .inr (by decide)
  · split at h
    · next l hl =>
      rw [List.mem_singleton.1 h]
      exact .inr (isHigh_of_shifted? isHigh_lowerShifts hl)
    · exact .inl (List.mem_singleton.1 h)

theorem mem_title {c d : Char} (h : d ∈ title c) : d = c ∨ IsHigh d := by
  unfold title at h
  split at h
  case h_5 c _ _ _ _ =>
    split at h
    · cases h
    · next head tail hu =>
      rcases List.mem_cons.1 h with rfl | h
      · exact mem_upper (hu ▸ List.mem_cons_self)
      · obtain ⟨e, he, hd⟩ := List.mem_flatMap.1 h
        rcases mem_lower hd with rfl | hd
        · exact mem_upper (hu ▸ List.mem_cons_of_mem _ he)
        · exact .inr hd
  all_goals
    rw [List.mem_singleton.1 h]
    exact .inr (by decide)

/-- Capitalizing adds no sign and no digit. -/
theorem mem_capitalizeFirst {s : String} {c : Char} (h : c ∈ (capitalizeFirst s).toList) :
    c ∈ s.toList ∨ IsHigh c := by
  rw [capitalizeFirst, String.toList_ofList] at h
  cases hs : s.toList with
  | nil =>
    rw [hs] at h
    cases h
  | cons first rest =>
    rw [hs, capitalizeChars] at h
    split at h
    · rcases List.mem_append.1 h with h | h
      · exact (mem_title h).imp_left fun (e : c = first) => e ▸ List.mem_cons_self
      · exact .inl (List.mem_cons_of_mem _ h)
    · exact .inl h

end Text

/-! ## Generated names -/

variable {c : Char}

theorem QualifiedName.mem_of_mem_sibling {n : QualifiedName} {simple : String}
    (h : c ∈ (n.sibling simple).text.toList) : c ∈ n.text.toList ∨ c ∈ simple.toList := by
  unfold sibling at h
  split at h
  · next s hs =>
    rw [String.toList_ofList] at h
    rw [eq_append_of_splitName hs]
    exact (List.mem_append.1 h).imp_left fun h => List.mem_append_left _ h
  · exact .inr h

theorem mem_modelName {b : Binding} (h : c ∈ b.modelName.toList) :
    (∃ name, b.displayName? = some name ∧ c ∈ name.toList) ∨ c ∈ b.type.path.text.toList ∨
      Text.IsHigh c := by
  rcases Text.mem_capitalizeFirst h with h | h
  · cases hn : b.displayName? with
    | some name =>
      rw [hn] at h
      exact .inl ⟨name, rfl, h⟩
    | none =>
      rw [hn] at h
      exact .inr (.inl (QualifiedName.mem_of_mem_simpleName h))
  · exact .inr (.inr h)

/-- Signs and digits of a generated name come from the declaration, the display name or the path of
the type. -/
theorem mem_generatedName {d : Declaration} {b : Binding}
    (h : c ∈ (d.generatedName b).text.toList) :
    c ∈ d.name.text.toList ∨ (∃ name, b.displayName? = some name ∧ c ∈ name.toList) ∨
      c ∈ b.type.path.text.toList ∨ Text.IsHigh c := by
  rcases QualifiedName.mem_of_mem_sibling h with h | h
  · exact .inl h
  · rw [String.toList_append] at h
    rcases List.mem_append.1 h with h | h
    · exact .inr (mem_modelName h)
    · exact .inl (QualifiedName.mem_of_mem_simpleName h)

end Concretize
