import Concretize.Proofs.Collision
import Concretize.Proofs.Sibling
import Mathlib.Data.List.Duplicate
import Mathlib.Data.List.Sort

/-!
# Groups of bindings

`Declaration.collisions` groups any list of bindings, also one with repetitions, by generated name,
and lists the groups of more than one.

* `Declaration.Groups`: what these groups are; there is one such list (`Declaration.Groups.unique`).
* `generatedName_eq_iff`: a declaration puts the same name behind all models, so bindings share a
  generated name if they share the name of the model.
* `mem_groups_iff`: the groups, without mention of the declaration.
* `bindings_grouped`: so which bindings collide is decided before any declaration is looked at.
-/
namespace Concretize

variable {d : Declaration} {bs : List Binding} {b b' : Binding} {c : Collision}

/-! ## What the groups are -/

/-- The list holds the groups of more than one binding: the names that two positions of the list of
bindings generate, in strictly increasing order, each with all its bindings in list order. -/
structure Declaration.Groups (d : Declaration) (bs : List Binding) (cs : List Collision) :
    Prop where
  ordered : cs.Pairwise fun c c' => c.name.text < c'.name.text
  shared : ∀ n, (∃ c ∈ cs, c.name = n) ↔ List.Duplicate n (bs.map d.generatedName)
  whole : ∀ c ∈ cs, c.bindings = bs.filter (d.generatedName · = c.name)

theorem duplicate_map_iff {α β : Type} [DecidableEq β] {f : α → β} {l : List α} {y : β} :
    List.Duplicate y (l.map f) ↔ 1 < (l.filter (f · = y)).length := by
  rw [List.duplicate_iff_two_le_count, List.count_eq_length_filter, List.filter_map,
    List.length_map]
  rfl

theorem groups_collisions (d : Declaration) (bs : List Binding) :
    d.Groups bs (d.collisions bs) where
  ordered := collisions_sorted d bs
  shared n := by
    rw [duplicate_map_iff]
    constructor
    · rintro ⟨c, hc, rfl⟩
      obtain ⟨whole, many⟩ := mem_collisions.1 hc
      rwa [← whole]
    · intro many
      exact ⟨⟨n, bs.filter (d.generatedName · = n)⟩, mem_collisions.2 ⟨rfl, many⟩, rfl⟩
  whole _ hc := (mem_collisions.1 hc).1

theorem name_of_grouped (hc : c ∈ d.collisions bs) (hb : b ∈ c.bindings) :
    d.generatedName b = c.name := by
  rw [(mem_collisions.1 hc).1, List.mem_filter, decide_eq_true_eq] at hb
  exact hb.2

theorem exists_grouped (hc : c ∈ d.collisions bs) : ∃ b, b ∈ c.bindings :=
  List.exists_mem_of_length_pos (Nat.lt_of_succ_lt (mem_collisions.1 hc).2)

section Unique
variable {cs cs' : List Collision} (h : d.Groups bs cs) (h' : d.Groups bs cs')
include h h'

/-- A group is known by its name. -/
theorem Declaration.Groups.subset : cs ⊆ cs' := by
  intro c hc
  obtain ⟨c', hc', name⟩ := (h'.shared c.name).2 ((h.shared c.name).1 ⟨c, hc, rfl⟩)
  have bindings : c'.bindings = c.bindings := by rw [h'.whole c' hc', h.whole c hc, name]
  have same : c' = c := by cases c; cases c'; simp_all
  exact same ▸ hc'

/-- The names decide on the groups, and the order on their places. -/
theorem Declaration.Groups.unique : cs = cs' := by
  have irrefl : Std.Irrefl fun c c' : Collision => c.name.text < c'.name.text :=
    ⟨fun _ => Std.lt_irrefl⟩
  have antisymm : Std.Antisymm fun c c' : Collision => c.name.text < c'.name.text :=
    ⟨fun _ _ lt gt => absurd lt (Std.not_gt_of_lt gt)⟩
  exact h.ordered.eq_of_mem_iff h'.ordered fun _ => ⟨fun hc => h.subset h' hc,
    fun hc => h'.subset h hc⟩

end Unique

theorem collisions_eq_nil_iff_nodup :
    d.collisions bs = [] ↔ (bs.map d.generatedName).Nodup := by
  rw [List.nodup_iff_forall_not_duplicate, List.eq_nil_iff_forall_not_mem]
  simp only [← (groups_collisions d bs).shared]
  constructor
  · rintro none n ⟨c, hc, -⟩
    exact none c hc
  · exact fun none c hc => none c.name ⟨c, hc, rfl⟩

/-! ## Groups without the declaration -/

/-- The package and the simple name of the declaration can be taken away again. -/
theorem generatedName_eq_iff :
    d.generatedName b = d.generatedName b' ↔ b.modelName = b'.modelName := by
  unfold Declaration.generatedName
  rw [(QualifiedName.sibling_injective d.name).eq_iff, ← String.toList_inj, String.toList_append,
    String.toList_append, List.append_cancel_right_eq, String.toList_inj]

/-- Two bindings of a list are grouped together if they have the same model name. -/
theorem grouped_iff :
    (∃ c ∈ d.collisions bs, [b, b'].Sublist c.bindings) ↔
      [b, b'].Sublist bs ∧ b.modelName = b'.modelName := by
  constructor
  · rintro ⟨c, hc, pair⟩
    have first : d.generatedName b = c.name := name_of_grouped hc (pair.subset (by simp))
    have second : d.generatedName b' = c.name := name_of_grouped hc (pair.subset (by simp))
    rw [(mem_collisions.1 hc).1] at pair
    exact ⟨pair.trans List.filter_sublist, generatedName_eq_iff.1 (first.trans second.symm)⟩
  · rintro ⟨pair, models⟩
    have names : d.generatedName b' = d.generatedName b := generatedName_eq_iff.2 models.symm
    have kept : [b, b'].Sublist (bs.filter (d.generatedName · = d.generatedName b)) := by
      simpa [names] using pair.filter (d.generatedName · = d.generatedName b)
    exact ⟨⟨_, _⟩, mem_collisions.2 ⟨rfl, kept.length_le⟩, kept⟩

/-- A group holds the bindings of one model name, if there is more than one. -/
theorem mem_groups_iff {g : List Binding} :
    g ∈ (d.collisions bs).map Collision.bindings ↔
      1 < g.length ∧ ∃ b : Binding, g = bs.filter (·.modelName = b.modelName) := by
  have group (b : Binding) : bs.filter (d.generatedName · = d.generatedName b) =
      bs.filter (·.modelName = b.modelName) := by simp only [generatedName_eq_iff]
  rw [List.mem_map]
  constructor
  · rintro ⟨c, hc, rfl⟩
    obtain ⟨whole, many⟩ := mem_collisions.1 hc
    obtain ⟨b, hb⟩ := exists_grouped hc
    exact ⟨many, b, by rw [whole, ← name_of_grouped hc hb, group]⟩
  · rintro ⟨many, b, rfl⟩
    exact ⟨⟨d.generatedName b, _⟩, mem_collisions.2 ⟨(group b).symm, many⟩, rfl⟩

theorem groups_nodup (d : Declaration) (bs : List Binding) :
    ((d.collisions bs).map Collision.bindings).Nodup := by
  refine List.pairwise_map.2 ((collisions_sorted d bs).imp_of_mem fun {c c'} hc hc' lt same => ?_)
  obtain ⟨b, hb⟩ := exists_grouped hc
  rw [← name_of_grouped hc hb, name_of_grouped hc' (same ▸ hb)] at lt
  exact Std.lt_irrefl lt

/-- **Groups of bindings.** The collisions in a list of bindings are its groups of more than one by
generated name, and there are none exactly if all generated names differ. Two bindings of the list
are in one group exactly if their model names are equal, so every declaration makes the same groups;
only their names, and with these their order, are its own. -/
theorem bindings_grouped (d : Declaration) (bs : List Binding) :
    (∀ cs, d.Groups bs cs ↔ cs = d.collisions bs) ∧
    (d.collisions bs = [] ↔ (bs.map d.generatedName).Nodup) ∧
    (∀ b b', (d.generatedName b = d.generatedName b' ↔ b.modelName = b'.modelName) ∧
      ((∃ c ∈ d.collisions bs, [b, b'].Sublist c.bindings) ↔
        [b, b'].Sublist bs ∧ b.modelName = b'.modelName)) ∧
    ∀ d' : Declaration, ((d'.collisions bs).map Collision.bindings).Perm
      ((d.collisions bs).map Collision.bindings) := by
  refine ⟨fun cs => ⟨fun h => h.unique (groups_collisions d bs), ?_⟩, collisions_eq_nil_iff_nodup,
    fun _ _ => ⟨generatedName_eq_iff, grouped_iff⟩, fun d' => ?_⟩
  · rintro rfl
    exact groups_collisions d bs
  · exact (List.perm_ext_iff_of_nodup (groups_nodup d' bs) (groups_nodup d bs)).2
      fun _ => mem_groups_iff.trans mem_groups_iff.symm

end Concretize
