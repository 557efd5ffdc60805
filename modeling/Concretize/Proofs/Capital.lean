import Concretize.Proofs.Grouping
import Concretize.Proofs.Naming

/-!
# Capitalized names

Capitalizing replaces a lowercase first character by its title form. The title form begins with a
capital, that is with a character that is not lowercase or is its own title form (`exists_title`):
what an uppercase mapping leads to is not lowercase (`shifted_not_isLowercase`,
`head_upperExpansions`), and a character without a mapping stays as it is.

* `capitalizeFirst_eq_self_iff`: the texts that capitalizing leaves alone.
* `capitalizeFirst_settles`: one capitalization is enough, it touches nothing behind the first
  character, and so a display name and its capitalized form name the same hierarchy.
-/
namespace Concretize

namespace Text

/-! ## Images of the uppercase mapping -/

/-- The members are all even or all odd. -/
def Run.alternates (r : Run) : Bool := r.stride == 2 || r.first == r.last

/-- The runs have no member in common: one lies behind the other, or each takes every second code
point of its own. -/
def Run.apart (r q : Run) : Bool :=
  r.last.blt q.first || q.last.blt r.first ||
    (r.alternates && q.alternates && r.first % 2 != q.first % 2)

/-- The images of the members of a shift. -/
def Shift.image (s : Shift) : Run where
  first := (s.distance + s.run.first).toNat
  last := (s.distance + s.run.last).toNat
  stride := s.run.stride

theorem apart_lowercaseRuns :
    (upperShifts.map Shift.image).all fun r => lowercaseRuns.all r.apart := by decide +kernel

theorem Run.contains_iff {r : Run} {c : Nat} :
    r.contains c ↔ r.first ≤ c ∧ c ≤ r.last ∧ (c - r.first) % r.stride = 0 := by
  simp [Run.contains, and_assoc]

theorem Run.emod_two_of_alternates {r : Run} (hr : r.alternates) {c : Nat} (h : r.contains c) :
    c % 2 = r.first % 2 := by
  obtain ⟨low, high, steps⟩ := Run.contains_iff.1 h
  rw [Run.alternates, Bool.or_eq_true, beq_iff_eq, beq_iff_eq] at hr
  rcases hr with stride | single
  · rw [stride] at steps
    omega
  · omega

theorem Run.not_contains_of_apart {r q : Run} (h : r.apart q) {c : Nat} (hr : r.contains c) :
    ¬ q.contains c := by
  intro hq
  obtain ⟨low, high, -⟩ := Run.contains_iff.1 hr
  obtain ⟨low', high', -⟩ := Run.contains_iff.1 hq
  simp only [Run.apart, Bool.or_eq_true, Bool.and_eq_true, Nat.blt_eq, bne_iff_ne] at h
  rcases h with (behind | before) | ⟨⟨alternates, alternates'⟩, differ⟩
  · omega
  · omega
  · exact differ ((emod_two_of_alternates alternates hr).symm.trans
      (emod_two_of_alternates alternates' hq))

theorem Shift.IsHigh.image_contains {s : Shift} (high : s.IsHigh) {c : Nat}
    (h : s.run.contains c) : s.image.contains (s.distance + (c : Int)).toNat := by
  have low := high.1
  obtain ⟨first, last, steps⟩ := Run.contains_iff.1 h
  have same : (s.distance + (c : Int)).toNat - s.image.first = c - s.run.first := by
    simp only [Shift.image]
    omega
  refine Run.contains_iff.2 ⟨?_, ?_, same ▸ steps⟩ <;> simp only [Shift.image] <;> omega

theorem toNat_ofNat_of_shifted? {c u : Nat} (h : shifted? upperShifts c = some u) :
    (Char.ofNat u).toNat = u := by
  have high := isHigh_of_shifted? isHigh_upperShifts h
  by_cases valid : u.isValidChar
  · rw [Char.ofNat, dif_pos valid]
    rfl
  · rw [IsHigh, Char.ofNat, dif_neg valid] at high
    exact absurd high (by decide)

/-- No single character that an uppercase mapping leads to is lowercase. -/
theorem shifted_not_isLowercase {c u : Nat} (h : shifted? upperShifts c = some u) :
    isLowercase (Char.ofNat u) = false := by
  rw [isLowercase, toNat_ofNat_of_shifted? h, List.any_eq_false]
  obtain ⟨s, hs, rfl⟩ := Option.map_eq_some_iff.1 h
  intro r hr
  have listed := List.mem_of_find?_eq_some hs
  have member : s.run.contains c := by simpa using List.find?_some hs
  have image := (isHigh_upperShifts s listed).image_contains member
  have apart := List.all_eq_true.1
    (List.all_eq_true.1 apart_lowercaseRuns _ (List.mem_map_of_mem listed)) r hr
  exact Run.not_contains_of_apart apart image

/-- The sequences that an uppercase mapping leads to begin with a character that is not
lowercase. -/
theorem head_upperExpansions : ∀ e ∈ upperExpansions,
    e.2.head?.map (fun u => isLowercase (Char.ofNat u)) = some false := by decide +kernel

/-- An uppercase mapping leads away from the lowercase characters or nowhere. -/
theorem exists_upper (c : Char) :
    upper c = [c] ∨ ∃ head tail, upper c = head :: tail ∧ isLowercase head = false := by
  unfold upper
  split
  · next u hu => exact .inr ⟨_, [], rfl, shifted_not_isLowercase hu⟩
  · split
    · next us hus =>
      obtain ⟨before, after, table, -⟩ := List.lookup_eq_some_iff.1 hus
      have listed : (c.toNat, us) ∈ upperExpansions := by rw [table]; simp
      have head := head_upperExpansions _ listed
      cases us with
      | nil => cases head
      | cons u us => exact .inr ⟨_, _, List.map_cons, by simpa using head⟩
    · exact .inl rfl

/-! ## Title forms -/

/-- Capitalizing leaves the character alone at the front of a text. -/
def IsCapital (c : Char) : Prop := isLowercase c = true → title c = [c]

theorem capitalizeChars_eq_self_iff {c : Char} {rest : List Char} :
    capitalizeChars (c :: rest) = c :: rest ↔ IsCapital c := by
  rw [capitalizeChars, IsCapital]
  split
  · next lowercase =>
    rw [← List.singleton_append (l := rest), List.append_cancel_right_eq]
    simp [lowercase]
  · next other => simp [other]

theorem title_of_upper_eq_self {c : Char} (h : upper c = [c]) : title c = [c] := by
  unfold title
  split
  case h_5 => rw [h]; rfl
  all_goals exact absurd h (by decide +kernel)

/-- A title form begins with a capital. -/
theorem exists_title (c : Char) : ∃ head tail, title c = head :: tail ∧ IsCapital head := by
  rcases exists_upper c with self | ⟨head, tail, form, other⟩
  · have own := title_of_upper_eq_self self
    exact ⟨c, [], own, fun _ => own⟩
  · unfold title
    split
    case h_5 =>
      rw [form]
      exact ⟨head, _, rfl, fun h => absurd h (by simp [other])⟩
    all_goals exact ⟨_, [], rfl, fun h => absurd h (by decide +kernel)⟩

theorem title_ne_nil (c : Char) : title c ≠ [] := by
  obtain ⟨head, tail, form, -⟩ := exists_title c
  simp [form]

/-- A capitalized text begins with a capital, and the rest of the text stands at its end. -/
theorem exists_capitalizeChars (c : Char) (rest : List Char) :
    ∃ head tail, capitalizeChars (c :: rest) = head :: (tail ++ rest) ∧ IsCapital head := by
  by_cases lowercase : isLowercase c = true
  · obtain ⟨head, tail, form, capital⟩ := exists_title c
    exact ⟨head, tail, by rw [capitalizeChars, if_pos lowercase, form, List.cons_append], capital⟩
  · exact ⟨c, [], by rw [capitalizeChars, if_neg lowercase, List.nil_append],
      fun h => absurd h lowercase⟩

/-- Capitalizing a character that has been capitalized changes nothing, whatever follows. -/
theorem capitalizeChars_capitalizeChars (cs : List Char) :
    capitalizeChars (capitalizeChars cs) = capitalizeChars cs := by
  cases cs with
  | nil => rfl
  | cons c rest =>
    obtain ⟨head, tail, form, capital⟩ := exists_capitalizeChars c rest
    rw [form, capitalizeChars_eq_self_iff]
    exact capital

theorem tail_suffix_capitalizeChars (cs : List Char) : cs.tail <:+ capitalizeChars cs := by
  cases cs with
  | nil => exact List.suffix_rfl
  | cons c rest =>
    obtain ⟨head, tail, form, -⟩ := exists_capitalizeChars c rest
    exact ⟨head :: tail, form.symm⟩

/-! ## Capitalized texts -/

variable {s : String}

theorem toList_capitalizeFirst : (capitalizeFirst s).toList = capitalizeChars s.toList :=
  String.toList_ofList

theorem capitalizeFirst_capitalizeFirst :
    capitalizeFirst (capitalizeFirst s) = capitalizeFirst s := by
  rw [capitalizeFirst, toList_capitalizeFirst, capitalizeChars_capitalizeChars, capitalizeFirst]

/-- Capitalizing changes the texts that begin with a lowercase character of another title form. -/
theorem capitalizeFirst_eq_self_iff :
    capitalizeFirst s = s ↔ ∀ c ∈ s.toList.head?, IsCapital c := by
  rw [← String.toList_inj, toList_capitalizeFirst]
  cases s.toList with
  | nil => simp [capitalizeChars]
  | cons c rest => simpa using capitalizeChars_eq_self_iff

theorem capitalizeFirst_ne_empty (h : s ≠ "") : capitalizeFirst s ≠ "" := by
  rw [← String.toList_inj.ne, toList_capitalizeFirst]
  rw [← String.toList_inj.ne] at h
  cases hs : s.toList with
  | nil => exact absurd hs h
  | cons c rest =>
    obtain ⟨head, tail, form, -⟩ := exists_capitalizeChars c rest
    simp [form]

end Text

/-! ## Names that differ in their first letter -/

/-- Different bindings of a list that generate the same name collide. -/
theorem exists_collision {d : Declaration} {bs : List Binding} {b b' : Binding} (hb : b ∈ bs)
    (hb' : b' ∈ bs) (hne : b ≠ b') (same : d.generatedName b = d.generatedName b') :
    ∃ c ∈ d.collisions bs, c.name = d.generatedName b ∧ b ∈ c.bindings ∧ b' ∈ c.bindings := by
  have first : b ∈ bs.filter (d.generatedName · = d.generatedName b) :=
    List.mem_filter.2 ⟨hb, by simp⟩
  have second : b' ∈ bs.filter (d.generatedName · = d.generatedName b) :=
    List.mem_filter.2 ⟨hb', by simp [same]⟩
  have pair : [b, b'].Nodup := by simpa using hne
  have grouped : [b, b'] ⊆ bs.filter (d.generatedName · = d.generatedName b) := by
    rintro x hx
    rcases List.mem_pair.1 hx with rfl | rfl
    · exact first
    · exact second
  have many := (List.subperm_of_subset pair grouped).length_le
  exact ⟨⟨_, _⟩, mem_collisions.2 ⟨rfl, many⟩, rfl, first, second⟩

theorem modelName_of_displayName {name : String} (h : name ≠ "") (t : TypeName) :
    Binding.modelName ⟨some name, t⟩ = Text.capitalizeFirst name := by
  simp [Binding.modelName, Binding.displayName?, Option.filter, h]

/-- **Capitalized names.** Capitalizing a second time changes nothing, and everything behind the
first character stands at the end of the result. It changes a text exactly if that begins with a
lowercase character of another title form. A display name and its capitalized form generate the same
name in every declaration and for any types; where they differ, bindings of these two names collide
in every list that has both. -/
theorem capitalizeFirst_settles (s : String) :
    Text.capitalizeFirst (Text.capitalizeFirst s) = Text.capitalizeFirst s ∧
    s.toList.tail <:+ (Text.capitalizeFirst s).toList ∧
    (Text.capitalizeFirst s ≠ s ↔
      ∃ c ∈ s.toList.head?, Text.isLowercase c = true ∧ Text.title c ≠ [c]) ∧
    (s ≠ "" → ∀ (d : Declaration) (t u : TypeName),
      d.generatedName ⟨some s, t⟩ = d.generatedName ⟨some (Text.capitalizeFirst s), u⟩ ∧
      (Text.capitalizeFirst s ≠ s → ∀ bs : List Binding,
        ⟨some s, t⟩ ∈ bs → ⟨some (Text.capitalizeFirst s), u⟩ ∈ bs →
          ∃ c ∈ d.collisions bs, c.name = d.generatedName ⟨some s, t⟩ ∧
            ⟨some s, t⟩ ∈ c.bindings ∧ ⟨some (Text.capitalizeFirst s), u⟩ ∈ c.bindings)) := by
  refine ⟨Text.capitalizeFirst_capitalizeFirst, ?_, ?_, fun given d t u => ?_⟩
  · rw [Text.toList_capitalizeFirst]
    exact Text.tail_suffix_capitalizeChars s.toList
  · rw [ne_eq, Text.capitalizeFirst_eq_self_iff]
    simp only [Text.IsCapital, not_forall, exists_prop, ne_eq]
  · have models : Binding.modelName ⟨some s, t⟩ =
        Binding.modelName ⟨some (Text.capitalizeFirst s), u⟩ := by
      rw [modelName_of_displayName given,
        modelName_of_displayName (Text.capitalizeFirst_ne_empty given),
        Text.capitalizeFirst_capitalizeFirst]
    have names : d.generatedName ⟨some s, t⟩ =
        d.generatedName ⟨some (Text.capitalizeFirst s), u⟩ := generatedName_eq_iff.2 models
    refine ⟨names, fun changed bs hb hb' => exists_collision hb hb' (fun e => changed ?_) names⟩
    exact (Option.some.inj (congrArg Binding.name e)).symm

/-- A state of two models, one named with a sharp s at the front and one in its title form. -/
def streetState : Declaration :=
  (Declaration.sealedInterface "app.State")
    |>.request { name := "ßtreet", type := { path := ⟨"app.Street"⟩ } }
    |>.request { name := "Sstreet", type := { path := ⟨"app.Road"⟩ } }

/-- The sharp s becomes two letters, and the two models collide. -/
theorem streetState_settles :
    "ßtreet" ≠ "" ∧ Text.capitalizeFirst "ßtreet" ≠ "ßtreet" ∧
      ⟨some "ßtreet", ⟨⟨"app.Street"⟩, [], false⟩⟩ ∈ streetState.bindings ∧
      ⟨some (Text.capitalizeFirst "ßtreet"), ⟨⟨"app.Road"⟩, [], false⟩⟩ ∈ streetState.bindings ∧
      ∃ c ∈ streetState.collisions streetState.bindings,
        c.name = streetState.generatedName ⟨some "ßtreet", ⟨⟨"app.Street"⟩, [], false⟩⟩ ∧
          ⟨some "ßtreet", ⟨⟨"app.Street"⟩, [], false⟩⟩ ∈ c.bindings ∧
          ⟨some (Text.capitalizeFirst "ßtreet"), ⟨⟨"app.Road"⟩, [], false⟩⟩ ∈ c.bindings := by
  have given : "ßtreet" ≠ "" := by decide
  have changed : Text.capitalizeFirst "ßtreet" ≠ "ßtreet" := by decide +kernel
  have first : ⟨some "ßtreet", ⟨⟨"app.Street"⟩, [], false⟩⟩ ∈ streetState.bindings := by
    decide +kernel
  have second : ⟨some (Text.capitalizeFirst "ßtreet"), ⟨⟨"app.Road"⟩, [], false⟩⟩ ∈
      streetState.bindings := by decide +kernel
  exact ⟨given, changed, first, second,
    ((capitalizeFirst_settles "ßtreet").2.2.2 given streetState _ _).2 changed _ first second⟩

end Concretize
