import Concretize.QualifiedName
import Mathlib.Data.List.Infix

/-!
# Names at their last separator

`splitName` takes a name apart at the separator that starts last.

* `splitName_eq_none_iff`: it fails exactly on names without a separator.
* `eq_append_of_splitName`, `not_separated_simple`: else nothing is lost, and what follows the
  separator has none.
* `classText_eq_text_iff`: a name written as its package with dots, a dot and its simple name is the
  name itself exactly if no `::` occurs in it (`QualifiedName.IsDotted`).
-/
namespace Concretize

/-! ## Splitting -/

/-- Some separator occurs among the characters. -/
def Separated (cs : List Char) : Prop := '.' ∈ cs ∨ [':', ':'] <:+: cs

theorem separated_cons {c : Char} {cs : List Char} :
    Separated (c :: cs) ↔ c = '.' ∨ (c = ':' ∧ [':'] <+: cs) ∨ Separated cs := by
  simp only [Separated, List.mem_cons, List.infix_cons_iff, List.cons_prefix_cons]
  grind

theorem splitName_eq_none_iff {cs : List Char} : splitName cs = none ↔ ¬ Separated cs := by
  fun_induction splitName cs with
  | case1 => simp [Separated]
  | case2 c rest s h ih =>
    have hs : Separated rest := by
      by_contra hs
      rw [ih.2 hs] at h
      cases h
    simp [separated_cons, hs]
  | case3 rest h ih => simp [separated_cons]
  | case4 simple h ih => simp [separated_cons]
  | case5 c rest h hdot hcolons ih =>
    have hs := ih.1 h
    simp only [separated_cons, hs, or_false, true_iff, not_or, not_and]
    refine ⟨hdot, fun hc ⟨simple, hp⟩ => hcolons simple hc ?_⟩
    rw [← hp]
    rfl

/-- Package, separator and simple name make up the name again. -/
theorem eq_append_of_splitName {cs : List Char} {s : NameSplit} (h : splitName cs = some s) :
    cs = s.package ++ s.separator.chars ++ s.simple := by
  fun_induction splitName cs generalizing s with
  | case1 => cases h
  | case2 c rest t ht ih =>
    cases h
    exact congrArg (c :: ·) (ih ht)
  | case3 => cases h; rfl
  | case4 => cases h; rfl
  | case5 => cases h

/-- No separator follows the last one. -/
theorem not_separated_simple {cs : List Char} {s : NameSplit} (h : splitName cs = some s) :
    ¬ Separated s.simple := by
  fun_induction splitName cs generalizing s with
  | case1 => cases h
  | case2 c rest t ht ih =>
    cases h
    have hs := ih ht
    exact hs
  | case3 rest hr => cases h; exact splitName_eq_none_iff.1 hr
  | case4 simple hr =>
    cases h
    have hs := splitName_eq_none_iff.1 hr
    exact fun h => hs (separated_cons.2 (.inr (.inr h)))
  | case5 => cases h

/-! ## Dots as the only separator -/

theorem length_dotted_le (cs : List Char) : (dotted cs).length ≤ cs.length := by
  fun_induction dotted cs with
  | case1 rest ih => simp only [List.length_cons]; omega
  | case2 c rest _ ih => simp only [List.length_cons]; omega
  | case3 => exact Nat.le_refl 0

/-- Every `::` makes the text shorter, so only texts without one are left as they are. -/
theorem dotted_eq_self_iff {cs : List Char} : dotted cs = cs ↔ ¬ [':', ':'] <:+: cs := by
  fun_induction dotted cs with
  | case1 rest ih =>
    have shorter := length_dotted_le rest
    constructor
    · intro h
      have := congrArg List.length h
      simp only [List.length_cons] at this
      omega
    · intro h
      exact absurd ⟨[], rest, rfl⟩ h
  | case2 c rest hc ih =>
    rw [List.cons.injEq, ih, List.infix_cons_iff, List.cons_prefix_cons]
    constructor
    · rintro ⟨-, h⟩ (⟨rfl, tail, ht⟩ | h')
      · exact hc tail rfl ht.symm
      · exact h h'
    · intro h
      exact ⟨rfl, fun h' => h (.inr h')⟩
  | case3 => simp

/-- A `::` does not straddle a dot. -/
theorem colons_append_dot {p q : List Char} (h : [':', ':'] <:+: p ++ '.' :: q) :
    [':', ':'] <:+: p ∨ [':', ':'] <:+: q := by
  induction p with
  | nil =>
    rw [List.nil_append, List.infix_cons_iff, List.cons_prefix_cons] at h
    rcases h with ⟨hc, -⟩ | h
    · cases hc
    · exact .inr h
  | cons c p ih =>
    rw [List.cons_append, List.infix_cons_iff, List.cons_prefix_cons] at h
    rcases h with ⟨rfl, hp⟩ | h
    · cases p with
      | nil => simp at hp
      | cons d p =>
        rw [List.cons_append, List.cons_prefix_cons] at hp
        obtain ⟨rfl, -⟩ := hp
        exact .inl ⟨[], p, rfl⟩
    · exact (ih h).imp_left fun h => h.trans (List.suffix_cons c p).isInfix

/-- No `::` occurs in the name. -/
def QualifiedName.IsDotted (n : QualifiedName) : Prop := ¬ [':', ':'] <:+: n.text.toList

instance (n : QualifiedName) : Decidable n.IsDotted :=
  inferInstanceAs (Decidable (¬ [':', ':'] <:+: n.text.toList))

/-- The name with its package in dots, and a dot before its simple name. -/
def QualifiedName.classText (n : QualifiedName) : String :=
  match n.dottedPackage? with
  | some package => package ++ "." ++ n.simpleName
  | none => n.simpleName

theorem dottedText_eq_text_iff {n : QualifiedName} : n.dottedText = n.text ↔ n.IsDotted := by
  rw [QualifiedName.dottedText, ← String.toList_inj, String.toList_ofList, dotted_eq_self_iff]
  rfl

theorem classText_eq_text_iff {n : QualifiedName} : n.classText = n.text ↔ n.IsDotted := by
  unfold QualifiedName.classText QualifiedName.dottedPackage? QualifiedName.package?
    QualifiedName.simpleName QualifiedName.IsDotted
  cases h : splitName n.text.toList with
  | none =>
    have hs := splitName_eq_none_iff.1 h
    simp only [Option.map_none, true_iff]
    exact fun hc => hs (.inr hc)
  | some s =>
    have hn := eq_append_of_splitName h
    simp only [Option.map_some, ← String.toList_inj, String.toList_append, String.toList_ofList]
    have shorter := length_dotted_le s.package
    rw [hn]
    cases hsep : s.separator with
    | colons =>
      constructor
      · intro e
        have := congrArg List.length e
        simp only [Separator.chars, List.length_append, String.length_toList] at this
        have : ".".length = 1 := rfl
        simp only [List.length_cons, List.length_nil] at *
        omega
      · intro hc
        exact absurd ⟨s.package, s.simple, rfl⟩ hc
    | dot =>
      have dot : ".".toList = Separator.dot.chars := rfl
      rw [dot, List.append_cancel_right_eq, List.append_cancel_right_eq, dotted_eq_self_iff]
      have hs : ¬ [':', ':'] <:+: s.simple := fun hc => not_separated_simple h (.inr hc)
      constructor
      · intro hp hc
        rw [List.append_assoc] at hc
        exact (colons_append_dot hc).elim hp hs
      · intro hc hp
        exact hc (hp.trans ⟨[], Separator.dot.chars ++ s.simple, by simp⟩)

/-! ## Characters of the parts -/

theorem QualifiedName.mem_of_mem_simpleName {n : QualifiedName} {c : Char}
    (h : c ∈ n.simpleName.toList) : c ∈ n.text.toList := by
  unfold simpleName at h
  split at h
  · next s hs =>
    rw [String.toList_ofList] at h
    rw [eq_append_of_splitName hs]
    exact List.mem_append_right _ h
  · exact h

theorem mem_of_mem_dotted {c : Char} {cs : List Char} (h : c ∈ dotted cs) : c ∈ cs ∨ c = '.' := by
  fun_induction dotted cs with
  | case1 rest ih => grind
  | case2 d rest _ ih => grind
  | case3 => cases h

theorem QualifiedName.mem_of_mem_dottedPackage {n : QualifiedName} {package : String} {c : Char}
    (hp : n.dottedPackage? = some package) (h : c ∈ package.toList) :
    c ∈ n.text.toList ∨ c = '.' := by
  simp only [dottedPackage?, package?, Option.map_map, Option.map_eq_some_iff] at hp
  obtain ⟨s, hs, rfl⟩ := hp
  simp only [Function.comp_apply, String.toList_ofList] at h
  rw [eq_append_of_splitName hs]
  exact (mem_of_mem_dotted h).imp_left fun hm => by simp [hm]

end Concretize
