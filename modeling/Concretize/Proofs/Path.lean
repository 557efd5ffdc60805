import Concretize.Proofs.QualifiedName
import Concretize.SourceFile
import Mathlib.Data.List.Basic

/-!
# Where paths lead

A path takes one step for each piece that is not empty. `Path.target` is where its steps lead when
every directory on the way exists; it depends on the text alone.

* `isNormal_iff`: which paths are relative and consist of normal components.
* `target_join`: joined to a root, such a path leads below the root, down its names.
* `same_iff_names`: two such paths are the same if and only if their names are, so different ones
  lead to different places (`target_join_ne`).
* `isNormal_push`, `Hierarchy.isNormal_path`: the paths of generated files are of this form.
-/
namespace Concretize.Storage

/-! ## Splitting -/

variable {sep : Char}

theorem splitChars_ne_nil (cs : List Char) : splitChars sep cs ≠ [] := by
  cases cs with
  | nil => exact List.cons_ne_nil _ _
  | cons c cs =>
    rw [splitChars]
    split
    · exact List.cons_ne_nil _ _
    · split <;> exact List.cons_ne_nil _ _

theorem splitChars_append (before after : List Char) :
    splitChars sep (before ++ sep :: after) = splitChars sep before ++ splitChars sep after := by
  induction before with
  | nil => simp [splitChars]
  | cons c before ih =>
    rw [List.cons_append, splitChars, splitChars, ih]
    split
    · rfl
    · cases h : splitChars sep before with
      | nil => exact absurd h (splitChars_ne_nil before)
      | cons head tail => rfl

theorem splitChars_of_not_mem {cs : List Char} (h : sep ∉ cs) : splitChars sep cs = [cs] := by
  induction cs with
  | nil => rfl
  | cons c cs ih =>
    rw [List.mem_cons, not_or] at h
    rw [splitChars, if_neg (Ne.symm h.1), ih h.2]

/-- A piece has characters of the text, and no separator among them. -/
theorem mem_of_mem_splitChars {c : Char} {piece cs : List Char} (hp : piece ∈ splitChars sep cs)
    (hc : c ∈ piece) : c ∈ cs ∧ c ≠ sep := by
  induction cs generalizing piece with
  | nil =>
    rw [splitChars, List.mem_singleton] at hp
    exact absurd hc (hp ▸ List.not_mem_nil)
  | cons a cs ih =>
    have later {piece : List Char} (hp : piece ∈ splitChars sep cs) (hc : c ∈ piece) :
        c ∈ a :: cs ∧ c ≠ sep := ⟨List.mem_cons_of_mem _ (ih hp hc).1, (ih hp hc).2⟩
    rw [splitChars] at hp
    split at hp
    · rcases List.mem_cons.1 hp with rfl | hp
      · cases hc
      · exact later hp hc
    · next ha =>
      cases hs : splitChars sep cs with
      | nil => exact absurd hs (splitChars_ne_nil cs)
      | cons head tail =>
        rw [hs] at hp later
        rcases List.mem_cons.1 hp with rfl | hp
        · rcases List.mem_cons.1 hc with rfl | hc
          · exact ⟨List.mem_cons_self, ha⟩
          · exact later List.mem_cons_self hc
        · exact later (List.mem_cons_of_mem _ hp) hc

theorem mem_of_mem_splitAt {s piece : String} {c : Char} (hp : piece ∈ splitAt sep s)
    (hc : c ∈ piece.toList) : c ∈ s.toList ∧ c ≠ sep := by
  rw [splitAt, List.mem_map] at hp
  obtain ⟨cs, hcs, rfl⟩ := hp
  rw [String.toList_ofList] at hc
  exact mem_of_mem_splitChars hcs hc

/-- Whether a component is a name. -/
def Component.isNormal : Component → Bool
  | .normal _ => true
  | _ => false

/-! ## Steps -/

namespace Path

/-- The steps of a path: its pieces that are not empty. -/
def steps (p : Path) : List String := p.pieces.filter (· ≠ "")

theorem pieces_append (a b : String) :
    (⟨a ++ "/" ++ b⟩ : Path).pieces = (⟨a⟩ : Path).pieces ++ (⟨b⟩ : Path).pieces := by
  have slash : "/".toList = ['/'] := rfl
  simp only [pieces, splitAt, String.toList_append, slash, List.append_assoc,
    List.singleton_append, splitChars_append, List.map_append]

theorem pieces_of_not_mem {piece : String} (h : '/' ∉ piece.toList) :
    (⟨piece⟩ : Path).pieces = [piece] := by
  simp only [pieces, splitAt, splitChars_of_not_mem h, List.map_cons, List.map_nil,
    String.ofList_toList]

/-- A slash at the end is no step. -/
theorem pieces_of_slash {a : String} (h : a.toList.getLast? = some '/') :
    ∃ b, a = b ++ "/" ∧ (⟨a⟩ : Path).pieces = (⟨b⟩ : Path).pieces ++ [""] := by
  obtain ⟨cs, hcs⟩ := List.getLast?_eq_some_iff.1 h
  have ha : a = String.ofList cs ++ "/" ++ "" := by
    rw [← String.toList_inj, hcs]
    simp
  refine ⟨String.ofList cs, by simpa using ha, ?_⟩
  have empty : (⟨""⟩ : Path).pieces = [""] := pieces_of_not_mem (by simp)
  rw [ha, pieces_append, empty]

theorem steps_push (p : Path) {piece : String} (h : piece.toList.head? ≠ some '/') :
    (p.push piece).steps = p.steps ++ (⟨piece⟩ : Path).steps := by
  obtain ⟨text⟩ := p
  simp only [push, h, decide_false, Bool.false_or, decide_eq_true_eq]
  split
  · next ht =>
    subst ht
    rfl
  split
  · next ht =>
    obtain ⟨before, rfl, hb⟩ := pieces_of_slash ht
    simp only [steps, pieces_append, hb, List.filter_append]
    simp
  · simp only [steps, pieces_append, List.filter_append]

theorem steps_of_not_mem {piece : String} (h : '/' ∉ piece.toList) :
    (⟨piece⟩ : Path).steps = if piece = "" then [] else [piece] := by
  rw [steps, pieces_of_not_mem h]
  by_cases hp : piece = "" <;> simp [hp]

/-! ## Normal paths -/

/-- Whether the path is relative and consists of normal components. -/
def IsNormal (p : Path) : Prop := ∀ c ∈ p.components, c.isNormal = true

instance (p : Path) : Decidable p.IsNormal :=
  inferInstanceAs (Decidable (∀ c ∈ p.components, c.isNormal = true))

/-- The steps of a path that go anywhere. -/
def names (p : Path) : List String := p.steps.filter (· ≠ ".")

/-- A relative path starts with its first step. -/
theorem head?_pieces {p : Path} (h : p.isAbsolute = false) (name : String) (hn : name ≠ "") :
    p.pieces.head? = some name ↔ p.steps.head? = some name := by
  rw [steps, pieces, splitAt]
  rw [isAbsolute, decide_eq_false_iff_not] at h
  cases hc : p.text.toList with
  | nil => simp [splitChars, hn.symm]
  | cons c cs =>
    rw [hc, List.head?_cons, Option.some_inj] at h
    rw [splitChars, if_neg h]
    split <;> simp

theorem filterMap_pieces (p : Path) :
    p.pieces.filterMap component? = p.steps.filterMap component? := by
  rw [steps, List.filterMap_filter]
  refine List.filterMap_congr fun piece _ => ?_
  by_cases h : piece = "" <;> simp [h, component?]

theorem isNormal_iff {p : Path} :
    p.IsNormal ↔ p.isAbsolute = false ∧ p.steps.head? ≠ some "." ∧ ".." ∉ p.steps := by
  have parent : Component.parent ∈ p.steps.filterMap component? ↔ ".." ∈ p.steps := by
    rw [List.mem_filterMap]
    constructor
    · rintro ⟨piece, hp, h⟩
      simp only [component?] at h
      split at h
      · cases h
      · split at h
        · next hd => exact hd ▸ hp
        · cases h
    · exact fun h => ⟨_, h, rfl⟩
  have others (c : Component) (hc : c ∈ p.steps.filterMap component?) :
      c = .parent ∨ c.isNormal = true := by
    obtain ⟨piece, -, h⟩ := List.mem_filterMap.1 hc
    simp only [component?] at h
    split at h
    · cases h
    · split at h <;> cases h
      · exact .inl rfl
      · exact .inr rfl
  rw [IsNormal, components]
  simp only [filterMap_pieces]
  split
  · next ha => simp [ha, Component.isNormal]
  · next ha =>
    rw [Bool.not_eq_true] at ha
    split
    · next hd => simp [(head?_pieces ha "." (by decide)).1 hd, Component.isNormal]
    · next hd =>
      have first := (head?_pieces ha "." (by decide)).not.1 hd
      simp only [ha, first, ne_eq, not_false_eq_true, true_and]
      rw [← parent]
      constructor
      · exact fun h hp => absurd (h _ hp) (by decide)
      · exact fun h c hc => (others c hc).resolve_left fun e => h (e ▸ hc)

theorem IsNormal.components_eq {p : Path} (h : p.IsNormal) :
    p.components = p.names.map .normal := by
  obtain ⟨ha, hd, hp⟩ := isNormal_iff.1 h
  have first := (head?_pieces ha "." (by decide)).not.2 hd
  simp only [components, ha, first, filterMap_pieces, Bool.false_eq_true, if_false]
  rw [names, ← List.filterMap_eq_map, List.filterMap_filter]
  refine List.filterMap_congr fun piece hpiece => ?_
  have he : piece ≠ "" := by simpa using (List.mem_filter.1 hpiece).2
  have hpp : piece ≠ ".." := fun e => hp (e ▸ hpiece)
  by_cases hdot : piece = "." <;> simp [component?, hdot, he, hpp]

/-- Normal paths are the same if they go through the same names. -/
theorem same_iff_names {p q : Path} (hp : p.IsNormal) (hq : q.IsNormal) :
    p.same q = true ↔ p.names = q.names := by
  rw [same, decide_eq_true_iff, hp.components_eq, hq.components_eq]
  exact (List.map_injective_iff.2 fun a b h => by cases h; rfl).eq_iff

/-! ## Targets -/

/-- The location one step on. -/
def advance (l : List String) (step : String) : List String :=
  if step = "." then l else if step = ".." then l.dropLast else l ++ [step]

/-- Where a path leads from the top if every directory on the way exists. -/
def target (p : Path) : List String := p.steps.foldl advance []

theorem foldl_advance {steps : List String} (h : ".." ∉ steps) (l : List String) :
    steps.foldl advance l = l ++ steps.filter (· ≠ ".") := by
  induction steps generalizing l with
  | nil => simp
  | cons step steps ih =>
    rw [List.mem_cons, not_or] at h
    rw [List.foldl_cons, ih h.2]
    by_cases hd : step = "." <;> simp [advance, hd, Ne.symm h.1]

/-- Below any root, a normal path leads down its names. -/
theorem target_join (root : Path) {p : Path} (h : p.IsNormal) :
    (root.join p).target = root.target ++ p.names := by
  obtain ⟨ha, -, hp⟩ := isNormal_iff.1 h
  rw [isAbsolute, decide_eq_false_iff_not] at ha
  rw [target, join, steps_push root ha, List.foldl_append, foldl_advance hp]
  rfl

theorem target_join_ne (root : Path) {p q : Path} (hp : p.IsNormal) (hq : q.IsNormal)
    (h : p.same q = false) : (root.join p).target ≠ (root.join q).target := by
  rw [target_join root hp, target_join root hq]
  intro e
  rw [List.append_cancel_left e |> (same_iff_names hp hq).2] at h
  cases h

/-! ## Longer paths -/

theorem isAbsolute_push {p : Path} {piece : String} (h : p.isAbsolute = false)
    (hs : piece.toList.head? ≠ some '/') : (p.push piece).isAbsolute = false := by
  rw [isAbsolute, decide_eq_false_iff_not] at h ⊢
  simp only [push, hs, decide_false, Bool.false_or, decide_eq_true_eq]
  split
  · exact hs
  · next ht =>
    have he : p.text.toList ≠ [] := fun e => ht (by rwa [String.toList_eq_nil_iff] at e)
    split <;> simpa [String.toList_append, List.head?_append_of_ne_nil _ he] using h

/-- A piece that is no detour makes a normal path longer by that piece. -/
theorem isNormal_push {p : Path} {piece : String} (h : p.IsNormal) (hs : '/' ∉ piece.toList)
    (hd : piece ≠ ".") (hp : piece ≠ "..") :
    (p.push piece).IsNormal ∧
      (p.push piece).names = p.names ++ if piece = "" then [] else [piece] := by
  have relative : piece.toList.head? ≠ some '/' := fun e => hs (List.mem_of_mem_head? e)
  have steps := steps_push p relative
  rw [steps_of_not_mem hs] at steps
  obtain ⟨ha, hh, hpp⟩ := isNormal_iff.1 h
  constructor
  · refine isNormal_iff.2 ⟨?_, ?_, ?_⟩
    · exact isAbsolute_push ha relative
    · rw [steps]
      cases hps : p.steps with
      | nil => split <;> simp [hd]
      | cons first rest => simpa [hps] using hh
    · rw [steps]
      split <;> simp [hpp, hp.symm]
  · rw [names, steps, List.filter_append]
    split <;> simp [names, hd]

/-- A piece that is no detour. -/
def IsPlain (piece : String) : Prop := '/' ∉ piece.toList ∧ piece ≠ "." ∧ piece ≠ ".."

theorem isNormal_foldl_push {segments : List String} (h : ∀ segment ∈ segments, IsPlain segment)
    {p : Path} (hp : p.IsNormal) :
    (segments.foldl push p).IsNormal ∧
      (segments.foldl push p).names = p.names ++ segments.filter (· ≠ "") := by
  induction segments generalizing p with
  | nil => exact ⟨hp, (List.append_nil _).symm⟩
  | cons segment segments ih =>
    obtain ⟨hs, hd, hdd⟩ := h segment List.mem_cons_self
    obtain ⟨normal, names⟩ := isNormal_push hp hs hd hdd
    obtain ⟨normal', names'⟩ := ih (fun s hm => h s (List.mem_cons_of_mem _ hm)) normal
    refine ⟨normal', ?_⟩
    rw [List.foldl_cons, names', names, List.append_assoc]
    by_cases he : segment = "" <;> simp [he]

end Path

end Concretize.Storage

namespace Concretize

open Storage (splitAt mem_of_mem_splitAt)

/-! ## Paths of generated files -/

/-- No slash occurs in the name. -/
def QualifiedName.SlashFree (n : QualifiedName) : Prop := '/' ∉ n.text.toList

instance (n : QualifiedName) : Decidable n.SlashFree :=
  inferInstanceAs (Decidable ('/' ∉ n.text.toList))

/-- The directories of a hierarchy, one for each segment of its package. -/
def Hierarchy.directories (h : Hierarchy) : List String :=
  ((h.name.dottedPackage?.map (splitAt '.')).getD []).filter (· ≠ "")

theorem isPlain_segment {n : QualifiedName} (hn : n.SlashFree) {package segment : String}
    (hp : n.dottedPackage? = some package) (h : segment ∈ splitAt '.' package) :
    Storage.Path.IsPlain segment := by
  have noDot : '.' ∉ segment.toList := fun hm => (mem_of_mem_splitAt h hm).2 rfl
  refine ⟨fun hm => ?_, fun e => ?_, fun e => ?_⟩
  · have hc := QualifiedName.mem_of_mem_dottedPackage hp (mem_of_mem_splitAt h hm).1
    exact hc.elim hn (by decide)
  · exact noDot (by rw [e]; decide)
  · exact noDot (by rw [e]; decide)

/-- A name with an ending is no detour. -/
theorem isPlain_append {s : String} (ending : String) (hs : '/' ∉ s.toList)
    (he : '/' ∉ ending.toList) (hl : 2 < ending.length) :
    Storage.Path.IsPlain (s ++ ending) ∧ s ++ ending ≠ "" := by
  have longer : 2 < (s ++ ending).length := by rw [String.length_append]; omega
  refine ⟨⟨by simp [hs, he], fun e => ?_, fun e => ?_⟩, fun e => ?_⟩ <;> rw [e] at longer <;>
    exact absurd longer (by decide)

theorem Hierarchy.isNormal_path {h : Hierarchy} (hn : h.name.SlashFree) :
    h.path.IsNormal ∧ h.path.names = h.directories ++ [h.simpleName ++ ".kt"] := by
  have simple : '/' ∉ h.simpleName.toList := fun hm => hn (QualifiedName.mem_of_mem_simpleName hm)
  obtain ⟨⟨hs, hd, hp⟩, some_name⟩ := isPlain_append ".kt" simple (by decide) (by decide)
  have empty : ({} : Storage.Path).IsNormal := by decide
  rw [path, directories]
  cases hpackage : h.name.dottedPackage? with
  | none =>
    have file := Storage.Path.isNormal_push empty hs hd hp
    rw [if_neg some_name] at file
    exact file
  | some package =>
    obtain ⟨normal, names⟩ :=
      Storage.Path.isNormal_foldl_push (fun s hm => isPlain_segment hn hpackage hm) empty
    have file := Storage.Path.isNormal_push normal hs hd hp
    rw [if_neg some_name, names] at file
    exact file

end Concretize
