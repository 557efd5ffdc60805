import Concretize.Proofs.QualifiedName

/-!
# Siblings

A sibling is put together from a package, its separator and a new simple name, and is taken apart
again at its last separator. The two agree unless the new simple name brings a separator along, or
makes one with the colons before it.

* `splitName_append_iff`: which texts are taken apart where they were put together.
* `sibling_placed_iff`: which simple names a sibling has, in the package it was given
  (`QualifiedName.Admits`).
* `admits_append_iff`: which texts fit in front of the simple name (`QualifiedName.Fits`).
* `parts_and_siblings`: a name is put together from the parts it is taken apart into, and a sibling
  forgets nothing but the simple name.
-/
namespace Concretize

variable {p q t : List Char} {sep : Separator}

/-! ## Separators at a joint -/

theorem singleton_prefix_iff {c : Char} : [c] <+: q ↔ q.head? = some c := by
  cases q with
  | nil => simp
  | cons d q => simp [List.cons_prefix_cons, eq_comm]

/-- A separator of two texts put together is one of theirs, or its colons meet at the joint. -/
theorem separated_append :
    Separated (p ++ q) ↔
      Separated p ∨ Separated q ∨ (p.getLast? = some ':' ∧ q.head? = some ':') := by
  induction p with
  | nil => simp [Separated]
  | cons c p ih =>
    rw [List.cons_append, separated_cons, separated_cons, ih, singleton_prefix_iff,
      singleton_prefix_iff]
    cases p with
    | nil => simp [Separated]; grind
    | cons d p => simp only [List.cons_append, List.head?_cons, List.getLast?_cons_cons]; grind

/-! ## Taking apart what was put together -/

theorem Separator.chars_injective : Function.Injective Separator.chars := by
  intro a b h
  cases a <;> cases b <;> simp_all [Separator.chars]

/-- The package begins with the first character, unless that begins the separator. -/
theorem splitName_cons_iff {c : Char} :
    splitName (c :: q) = some ⟨c :: p, sep, t⟩ ↔ splitName q = some ⟨p, sep, t⟩ := by
  conv_lhs => unfold splitName
  cases splitName q with
  | some s =>
    cases s
    simp
  | none =>
    dsimp only
    split <;> simp

/-- Behind the separator stands no other, and no colon that would make one with it. -/
def Separator.Precedes (sep : Separator) (t : List Char) : Prop :=
  ¬ Separated t ∧ (sep = .colons → t.head? ≠ some ':')

theorem splitName_append_iff :
    splitName (p ++ sep.chars ++ t) = some ⟨p, sep, t⟩ ↔ sep.Precedes t := by
  induction p with
  | cons c p ih => rw [List.cons_append, List.cons_append, splitName_cons_iff, ih]
  | nil =>
    unfold Separator.Precedes
    rw [List.nil_append]
    cases sep with
    | dot =>
      have rest : splitName t = none ↔ ¬ Separated t := splitName_eq_none_iff
      rw [Separator.chars, List.singleton_append, splitName]
      cases hs : splitName t <;> simp_all
    | colons =>
      -- A third colon would start a later separator.
      have rest : splitName (':' :: t) = none ↔ ¬ Separated t ∧ t.head? ≠ some ':' := by
        rw [splitName_eq_none_iff, separated_cons, singleton_prefix_iff]
        grind
      rw [Separator.chars, List.cons_append, List.singleton_append, splitName]
      cases hs : splitName (':' :: t) with
      | none => simpa using rest.1 hs
      | some s => simpa [hs] using rest

/-! ## Siblings -/

namespace QualifiedName

variable {n : QualifiedName} {simple front : String}

/-- What stands before the simple name, if anything does. -/
def separator? (n : QualifiedName) : Option Separator :=
  (splitName n.text.toList).map (·.separator)

/-- The text can be the simple name of a sibling: it has no separator, and makes none with the
colons before it. -/
def Admits (n : QualifiedName) (simple : String) : Prop :=
  ¬ Separated simple.toList ∧ (n.separator? = some .colons → simple.toList.head? ≠ some ':')

theorem admits_simpleName (n : QualifiedName) : n.Admits n.simpleName := by
  unfold Admits separator? simpleName
  cases h : splitName n.text.toList with
  | none => exact ⟨splitName_eq_none_iff.1 h, nofun⟩
  | some s =>
    have parts := h
    rw [eq_append_of_splitName h] at parts
    simpa [Separator.Precedes] using splitName_append_iff.1 parts

theorem sibling_placed_iff :
    ((n.sibling simple).package? = n.package? ∧ (n.sibling simple).simpleName = simple) ↔
      n.Admits simple := by
  unfold Admits separator? sibling package? simpleName
  cases h : splitName n.text.toList with
  | none =>
    have whole : splitName simple.toList = none ↔ ¬ Separated simple.toList :=
      splitName_eq_none_iff
    cases hs : splitName simple.toList <;> simp_all
  | some s =>
    obtain ⟨package, sep, last⟩ := s
    have admitted : ¬ Separated simple.toList ∧ (sep = .colons → simple.toList.head? ≠ some ':') ↔
        splitName (package ++ sep.chars ++ simple.toList) = some ⟨package, sep, simple.toList⟩ :=
      splitName_append_iff.symm
    simp only [Option.map_some, Option.some_inj, String.toList_ofList]
    rw [admitted]
    cases again : splitName (package ++ sep.chars ++ simple.toList) with
    | none => simp
    | some s' =>
      obtain ⟨package', sep', last'⟩ := s'
      have parts := eq_append_of_splitName again
      simp only [Option.map_some, Option.some_inj, NameSplit.mk.injEq, ← String.toList_inj,
        String.toList_ofList]
      constructor
      · rintro ⟨rfl, rfl⟩
        rw [List.append_cancel_right_eq, List.append_cancel_left_eq] at parts
        exact ⟨rfl, Separator.chars_injective parts.symm, rfl⟩
      · rintro ⟨rfl, -, rfl⟩
        exact ⟨rfl, rfl⟩

/-- Siblings differ in their simple names only. -/
theorem sibling_injective (n : QualifiedName) : Function.Injective n.sibling := by
  intro x y h
  unfold sibling at h
  split at h
  · simpa only [QualifiedName.mk.injEq, String.ofList_inj, List.append_cancel_left_eq,
      String.toList_inj] using h
  · exact QualifiedName.mk.inj h

/-- The text fits in front of the simple name: it has no separator, and makes none with what stands
before it or after it. -/
@[mk_iff]
structure Fits (n : QualifiedName) (front : String) : Prop where
  inside : ¬ Separated front.toList
  before : n.separator? = some .colons → front.toList.head? ≠ some ':'
  after : front.toList.getLast? = some ':' → n.simpleName.toList.head? ≠ some ':'

theorem admits_append_iff : n.Admits (front ++ n.simpleName) ↔ n.Fits front := by
  obtain ⟨whole, first⟩ := admits_simpleName n
  unfold Admits
  rw [String.toList_append, separated_append]
  constructor
  · rintro ⟨none, colons⟩
    refine ⟨fun h => none (.inl h), fun hc hf => colons hc ?_,
      fun hl hs => none (.inr (.inr ⟨hl, hs⟩))⟩
    rw [List.head?_append, hf, Option.some_or]
  · rintro ⟨inside, before, after⟩
    refine ⟨?_, fun hc hf => ?_⟩
    · rintro (h | h | ⟨hl, hs⟩)
      · exact inside h
      · exact whole h
      · exact after hl hs
    · cases hfront : front.toList with
      | nil => exact first hc (by rwa [hfront] at hf)
      | cons c cs => exact before hc (by rw [hfront] at hf ⊢; exact hf)

/-! ## Parts -/

theorem package?_eq_none_iff : n.package? = none ↔ ¬ Separated n.text.toList := by
  rw [package?, Option.map_eq_none_iff, splitName_eq_none_iff]

theorem simpleName_of_package?_eq_none (h : n.package? = none) : n.simpleName = n.text := by
  rw [package?, Option.map_eq_none_iff] at h
  rw [simpleName, h]

/-- A name in a package is the package, a separator and the simple name. -/
theorem text_eq_of_package? {package : String} (h : n.package? = some package) :
    ∃ sep : Separator, n.text = package ++ String.ofList sep.chars ++ n.simpleName := by
  obtain ⟨s, hs, rfl⟩ := Option.map_eq_some_iff.1 h
  refine ⟨s.separator, ?_⟩
  rw [simpleName, hs, ← String.toList_inj]
  simpa using eq_append_of_splitName hs

theorem sibling_simpleName (n : QualifiedName) : n.sibling n.simpleName = n := by
  unfold sibling simpleName
  cases hs : splitName n.text.toList with
  | none => rfl
  | some s => simp only [String.toList_ofList, ← eq_append_of_splitName hs, String.ofList_toList]

theorem admits_of_notMem (dot : '.' ∉ simple.toList) (colon : ':' ∉ simple.toList) :
    n.Admits simple := by
  refine ⟨?_, fun _ first => colon (List.mem_of_mem_head? first)⟩
  rintro (h | h)
  · exact dot h
  · exact colon (h.mem (List.mem_cons_self ..))

/-- A sibling keeps the separator, so that the siblings of a sibling are those of the name. -/
theorem sibling_sibling (h : n.Admits simple) (other : String) :
    (n.sibling simple).sibling other = n.sibling other := by
  unfold Admits separator? at h
  unfold sibling
  cases hs : splitName n.text.toList with
  | none => simp only [splitName_eq_none_iff.2 h.1]
  | some s =>
    have again : splitName (s.package ++ s.separator.chars ++ simple.toList) =
        some ⟨s.package, s.separator, simple.toList⟩ :=
      splitName_append_iff.2 ⟨h.1, fun colons => h.2 (by rw [hs, Option.map_some, colons])⟩
    simp only [String.toList_ofList, again]

/-- **Parts of a name.** A name without a separator is its own simple name, and exactly such a name
is in no package. Any other is its package, a separator and its simple name, which has none. Giving
a name its own simple name changes nothing; any text without dots and colons becomes the simple name
of a sibling in the same package, and the siblings of that sibling are those of the name. -/
theorem parts_and_siblings (n : QualifiedName) :
    (n.package? = none ↔ '.' ∉ n.text.toList ∧ ¬ [':', ':'] <:+: n.text.toList) ∧
    (n.package? = none → n.simpleName = n.text) ∧
    (∀ package, n.package? = some package → ∃ sep : Separator,
      n.text = package ++ String.ofList sep.chars ++ n.simpleName) ∧
    ('.' ∉ n.simpleName.toList ∧ ¬ [':', ':'] <:+: n.simpleName.toList) ∧
    n.sibling n.simpleName = n ∧
    ∀ simple : String, '.' ∉ simple.toList → ':' ∉ simple.toList →
      (n.sibling simple).package? = n.package? ∧ (n.sibling simple).simpleName = simple ∧
        ∀ other, (n.sibling simple).sibling other = n.sibling other := by
  refine ⟨?_, simpleName_of_package?_eq_none, fun _ => text_eq_of_package?,
    not_or.1 (admits_simpleName n).1, sibling_simpleName n, fun simple dot colon => ?_⟩
  · rw [package?_eq_none_iff, Separated, not_or]
  · have admitted : n.Admits simple := admits_of_notMem dot colon
    obtain ⟨package, last⟩ := sibling_placed_iff.2 admitted
    exact ⟨package, last, sibling_sibling admitted⟩

/-- A name with a dot, and with three colons in front of its simple name. -/
def crowdedName : QualifiedName := ⟨"app.state:::Load"⟩

theorem crowdedName_siblings :
    (crowdedName.package? = some "app.state:" ∧ ∃ sep : Separator,
      crowdedName.text = "app.state:" ++ String.ofList sep.chars ++ crowdedName.simpleName) ∧
    ((⟨"Load"⟩ : QualifiedName).package? = none ∧
      (⟨"Load"⟩ : QualifiedName).simpleName = "Load") ∧
    ('.' ∉ "User".toList ∧ ':' ∉ "User".toList) ∧
    (crowdedName.sibling "User").package? = crowdedName.package? ∧
    (crowdedName.sibling "User").sibling ":a.b" = crowdedName.sibling ":a.b" := by
  have package : crowdedName.package? = some "app.state:" := by decide
  have top : (⟨"Load"⟩ : QualifiedName).package? = none := by decide
  have dot : '.' ∉ "User".toList := by decide
  have colon : ':' ∉ "User".toList := by decide
  obtain ⟨-, -, parts, -, -, siblings⟩ := parts_and_siblings crowdedName
  obtain ⟨same, -, others⟩ := siblings "User" dot colon
  exact ⟨⟨package, parts _ package⟩, ⟨top, (parts_and_siblings ⟨"Load"⟩).2.1 top⟩, ⟨dot, colon⟩,
    same, others ":a.b"⟩

end QualifiedName

end Concretize
