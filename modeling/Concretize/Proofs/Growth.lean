import Concretize.Proofs.Parent
import Concretize.Proofs.Storage

/-!
# How storage grows

A write makes directories where nothing stands and puts a file where no directory stands. So it
preserves what such steps preserve (`writeFile_induct`), whatever befalls it.

* `Tree.Grows`: directories stay, and files stay files, perhaps with another text. A path that led
  somewhere, or failed at something other than a gap, does so again (`locate_of_grows`).
* `Tree.Closed`: whatever stands somewhere stands in a directory.
-/
namespace Concretize

namespace Storage.Tree

variable {t t' t'' : Tree} {l k : Location} {p : Path} {text : String} {n : Node} {fault : Fault}

/-! ## Following steps -/

theorem ok_bind {α β : Type} (a : α) (f : α → Except Fault β) : Except.ok a >>= f = f a := rfl

theorem error_bind {α β : Type} (fault : Fault) (f : α → Except Fault β) :
    Except.error fault >>= f = .error fault := rfl

theorem foldlM_single (l : Location) (step : String) :
    [step].foldlM t.enter l = t.enter l step := by
  cases h : t.enter l step <;> rw [List.foldlM_cons, h] <;> rfl

theorem enter_file (h : t.node? l = some (.file text)) (name : String) :
    t.enter l name = .error .notADirectory := by
  rw [enter, h]

/-- In a directory, no name is a gap. -/
theorem enter_ne_notFound (h : t.node? l = some .directory) (name : String) :
    t.enter l name ≠ .error .notFound := by
  intro gap
  rw [enter, h] at gap
  simp only at gap
  split at gap
  · cases gap
  split at gap
  · cases gap
  split at gap <;> cases gap

theorem foldlM_dots {dots : List String} (h : t.node? l = some .directory)
    (hd : ∀ step ∈ dots, step = ".") : dots.foldlM t.enter l = .ok l := by
  induction dots with
  | nil => rfl
  | cons step dots ih =>
    have stay : t.enter l step = .ok l := by rw [enter, h, hd step List.mem_cons_self]; rfl
    rw [List.foldlM_cons, stay, ok_bind, ih fun s hs => hd s (List.mem_cons_of_mem _ hs)]

theorem foldlM_file {steps : List String} (h : t.node? l = some (.file text))
    (some_step : steps ≠ []) : steps.foldlM t.enter l = .error .notADirectory := by
  cases steps with
  | nil => exact absurd rfl some_step
  | cons step steps => rw [List.foldlM_cons, enter_file h, error_bind]

theorem locate_of_flaw (h : p.flaw? = some fault) : t.locate p = .error fault := by
  unfold Path.flaw? at h
  unfold locate
  split
  · next hz => rw [if_pos hz, Option.some_inj] at h; rw [h]
  next hz =>
  rw [if_neg hz] at h
  split
  · next he => rw [if_pos he, Option.some_inj] at h; rw [h]
  next he =>
  rw [if_neg he] at h
  split
  · next hl => rw [if_pos hl, Option.some_inj] at h; rw [h]
  · next hl => rw [if_neg hl] at h; cases h

theorem locate_of_sound (h : p.flaw? = none) : t.locate p = p.steps.foldlM t.enter [] := by
  obtain ⟨hz, he, hl⟩ := Path.flaw?_eq_none_iff.1 h
  rw [locate, if_neg (by simp [hz]), if_neg he, if_neg (Nat.not_lt.2 hl)]
  rfl

/-! ## Growth -/

/-- Everything that stands in `t` stands in `t'`: directories as they are, files perhaps with another
text. -/
structure Grows (t t' : Tree) : Prop where
  directory : ∀ {l}, t.node? l = some .directory → t'.node? l = some .directory
  file : ∀ {l text}, t.node? l = some (.file text) → ∃ text', t'.node? l = some (.file text')

theorem Grows.refl (t : Tree) : t.Grows t := ⟨id, fun h => ⟨_, h⟩⟩

theorem Grows.trans (h : t.Grows t') (h' : t'.Grows t'') : t.Grows t'' where
  directory hl := h'.directory (h.directory hl)
  file hl := by
    obtain ⟨_, hl⟩ := h.file hl
    exact h'.file hl

theorem grows_put_directory (free : t.node? l = none) : t.Grows (t.put l .directory) := by
  have elsewhere {k : Location} {n : Node} (hk : t.node? k = some n) : k ≠ l :=
    fun e => by rw [e, free] at hk; cases hk
  constructor
  · intro k hk
    rwa [node?_put_ne (elsewhere hk)]
  · intro k text hk
    exact ⟨text, by rwa [node?_put_ne (elsewhere hk)]⟩

theorem ne_nil_of_node? (h : t.node? l ≠ some .directory) : l ≠ [] := fun e => h (by rw [e]; rfl)

theorem grows_put_file (free : t.node? l ≠ some .directory) : t.Grows (t.put l (.file text)) := by
  constructor
  · intro k hk
    have e : k ≠ l := fun e => free (by rw [← e, hk])
    rwa [node?_put_ne e]
  · intro k text' hk
    by_cases e : k = l
    · exact ⟨text, by rw [e, node?_put_self (ne_nil_of_node? free)]⟩
    · exact ⟨text', by rwa [node?_put_ne e]⟩

theorem makeDirectoriesWithin_grows (t : Tree) (bound : Nat) (p : Path) :
    t.Grows (t.makeDirectoriesWithin bound p).1 :=
  makeDirectoriesWithin_induct (fun _ h => ⟨h.directory, h.file⟩)
    (fun _ _ _ h _ free => h.trans (grows_put_directory free)) (.refl t) bound p

theorem writeFile_grows (t : Tree) (p : Path) (text : String) :
    t.Grows (writeFile t p text).1 :=
  writeFile_induct (fun _ h => ⟨h.directory, h.file⟩)
    (fun _ _ _ h _ free => h.trans (grows_put_directory free))
    (fun _ _ _ h _ free => h.trans (grows_put_file free)) (.refl t)

/-- Directories are made beside the files, not out of them. -/
theorem file_of_makeDirectoriesWithin {bound : Nat}
    (h : (t.makeDirectoriesWithin bound p).1.node? l = some (.file text)) :
    t.node? l = some (.file text) := by
  refine makeDirectoriesWithin_induct
    (I := fun t' => t'.node? l = some (.file text) → t.node? l = some (.file text))
    (fun _ h => h) (fun t' q k h _ free hl => ?_) id bound p h
  by_cases e : l = k
  · have below : k ≠ [] := ne_nil_of_node? (by rw [free]; nofun)
    rw [e, node?_put_self below] at hl
    cases hl
  · exact h (by rwa [node?_put_ne e] at hl)

/-- A write that spares every place leaves everything. -/
theorem node?_of_spares (h : ∀ l, t.Spares l t') (there : t.node? k = some n) :
    t'.node? k = some n :=
  h ("" :: k) k n there (.inl (List.cons_ne_self "" k).symm)

/-! ## Mishaps to come -/

theorem makeDirectoriesWithin_calm (h : t.mishaps = []) (bound : Nat) (p : Path) :
    (t.makeDirectoriesWithin bound p).1.mishaps = [] :=
  makeDirectoriesWithin_induct (I := fun t => t.mishaps = [])
    (fun t h => by rw [nextMishap, h, List.tail_nil]) (fun _ _ _ h _ _ => h) h bound p

theorem writeFile_calm (h : t.mishaps = []) (p : Path) (text : String) :
    (writeFile t p text).1.mishaps = [] :=
  writeFile_induct (I := fun t => t.mishaps = [])
    (fun t h => by rw [nextMishap, h, List.tail_nil]) (fun _ _ _ h _ _ => h)
    (fun _ _ _ h _ _ => h) h

/-! ## Closed trees -/

/-- Whatever stands somewhere stands in a directory. -/
def Closed (t : Tree) : Prop := ∀ l, t.node? l ≠ none → t.node? l.dropLast = some .directory

theorem closed_of_nodes (h : ∀ node ∈ t.nodes, t.node? node.1.dropLast = some .directory) :
    t.Closed := by
  intro l hl
  by_cases e : l = []
  · rw [e]
    rfl
  · rw [node?, if_neg e] at hl
    obtain ⟨n, hn⟩ := Option.ne_none_iff_exists'.1 hl
    obtain ⟨before, after, split, -⟩ := List.lookup_eq_some_iff.1 hn
    exact h (l, n) (by rw [split]; simp)

/-- A step leads from a directory to a place in a directory. -/
theorem Closed.above_enter (h : t.Closed) {name : String} (step : t.enter k name = .ok l) :
    t.node? l.dropLast = some .directory := by
  unfold enter at step
  split at step
  · cases step
  · cases step
  · next hd =>
    have above : t.node? k.dropLast = some .directory := h k (by rw [hd]; nofun)
    split at step
    · cases step
      exact above
    split at step
    · cases step
      exact h _ (by rw [above]; nofun)
    split at step
    · cases step
    · cases step
      rwa [List.dropLast_concat]

/-- A path leads to a place in a directory. -/
theorem Closed.above_locate (h : t.Closed) (located : t.locate p = .ok l) :
    t.node? l.dropLast = some .directory := by
  have found := (locate_eq_ok_iff.1 located).2
  rcases List.eq_nil_or_concat p.steps with hp | ⟨steps, last, hp⟩
  · rw [hp] at found
    cases found
    rfl
  · rw [hp, List.concat_eq_append, List.foldlM_append] at found
    cases hs : steps.foldlM t.enter [] with
    | error fault => rw [hs] at found; cases found
    | ok k =>
      rw [hs, ok_bind, foldlM_single] at found
      exact h.above_enter found

theorem Closed.put (h : t.Closed) (above : t.node? l.dropLast = some .directory)
    (free : t.node? l ≠ some .directory) : (t.put l n).Closed := by
  have below := ne_nil_of_node? free
  intro k hk
  by_cases e : k = l
  · have other : l.dropLast ≠ l := fun e => free (by rwa [← e])
    rw [e, node?_put_ne other, above]
  · rw [node?_put_ne e] at hk
    have other : k.dropLast ≠ l := fun e => free (by rw [← e, h k hk])
    rw [node?_put_ne other, h k hk]

theorem writeFile_closed (h : t.Closed) (p : Path) (text : String) :
    (writeFile t p text).1.Closed :=
  writeFile_induct (I := Closed) (fun _ h => h)
    (fun _ _ _ h located free => h.put (h.above_locate located) (by rw [free]; nofun))
    (fun _ _ _ h located free => h.put (h.above_locate located) free) h

/-! ## Finding again -/

section Finding
variable (g : t.Grows t')
include g

theorem enter_of_grows {name : String} (h : t.enter l name ≠ .error .notFound) :
    t'.enter l name = t.enter l name := by
  unfold enter at h ⊢
  cases hl : t.node? l with
  | none => rw [hl] at h; exact absurd rfl h
  | some n =>
    cases n with
    | directory => rw [g.directory hl]
    | file text =>
      obtain ⟨text', hl'⟩ := g.file hl
      rw [hl']

theorem foldlM_of_grows {steps : List String} (h : steps.foldlM t.enter l ≠ .error .notFound) :
    steps.foldlM t'.enter l = steps.foldlM t.enter l := by
  induction steps generalizing l with
  | nil => rfl
  | cons step steps ih =>
    rw [List.foldlM_cons] at h ⊢
    rw [List.foldlM_cons]
    cases hs : t.enter l step with
    | error fault =>
      rw [hs, error_bind] at h
      rw [enter_of_grows g (by rwa [hs]), hs, error_bind, error_bind]
    | ok k =>
      rw [hs, ok_bind] at h
      rw [enter_of_grows g (by rw [hs]; nofun), hs, ok_bind, ok_bind, ih h]

/-- Unless a path led to a gap, it leads where it led. -/
theorem locate_of_grows (h : t.locate p ≠ .error .notFound) : t'.locate p = t.locate p := by
  cases hf : p.flaw? with
  | some fault => rw [locate_of_flaw hf, locate_of_flaw hf]
  | none =>
    rw [locate_of_sound hf] at h ⊢
    rw [locate_of_sound hf, foldlM_of_grows g h]

end Finding

/-- The steps of a path lead to a directory. -/
def Opens (t : Tree) (p : Path) : Prop :=
  ∃ l, p.steps.foldlM t.enter [] = .ok l ∧ t.node? l = some .directory

theorem opens_of_isIdle (h : p.IsIdle) : t.Opens p := ⟨[], foldlM_dots rfl h, rfl⟩

theorem opens_of_locate (h : t.locate p = .ok l) (hl : t.node? l = some .directory) :
    t.Opens p :=
  ⟨l, (locate_eq_ok_iff.1 h).2, hl⟩

theorem Opens.locate (h : t.Opens p) (sound : p.flaw? = none) :
    ∃ l, t.locate p = .ok l ∧ t.node? l = some .directory := by
  obtain ⟨l, hl, hd⟩ := h
  exact ⟨l, by rw [locate_of_sound sound, hl], hd⟩

theorem Opens.grows (h : t.Opens p) (g : t.Grows t') : t'.Opens p := by
  obtain ⟨l, hl, hd⟩ := h
  exact ⟨l, by rw [foldlM_of_grows g (by rw [hl]; nofun), hl], g.directory hd⟩

theorem flaw?_of_locate (h : t.locate p = .ok l) : p.flaw? = none :=
  Path.flaw?_eq_none_iff.2 (locate_eq_ok_iff.1 h).1

theorem flaw?_of_gap (some_text : p.text ≠ "") (gap : t.locate p = .error .notFound) :
    p.flaw? = none := by
  cases hf : p.flaw? with
  | none => rfl
  | some fault =>
    rw [locate_of_flaw hf] at gap
    cases gap
    exact absurd hf (Path.flaw?_ne_notFound some_text)

section Above
variable {above : Path} (h : above.Above p)
include h

/-- From a directory, one step is left to a path, and it meets no gap. -/
theorem Opens.locate_ne_notFound (ho : t.Opens above) : t.locate p ≠ .error .notFound := by
  cases hf : p.flaw? with
  | some fault =>
    rw [locate_of_flaw hf]
    rintro ⟨⟩
    exact Path.flaw?_ne_notFound h.text_ne_empty hf
  | none =>
    obtain ⟨l, hl, hd⟩ := ho
    obtain ⟨dots, last, idle, steps⟩ := h.steps
    rw [locate_of_sound hf, steps, List.foldlM_append, List.foldlM_append, hl, ok_bind,
      foldlM_dots hd idle, ok_bind, foldlM_single]
    exact enter_ne_notFound hd last

variable (sound : p.flaw? = none) (some_text : above.text ≠ "")
include sound some_text

/-- What is in the way of the parent is in the way of the path. -/
theorem locate_of_above_error (ha : t.locate above = .error fault) : t.locate p = .error fault := by
  obtain ⟨dots, last, -, steps⟩ := h.steps
  rw [locate_of_sound (h.flaw? sound some_text)] at ha
  rw [locate_of_sound sound, steps, List.append_assoc, List.foldlM_append, ha, error_bind]

/-- No path leads through a file. -/
theorem locate_of_above_file (ha : t.locate above = .ok l) (file : t.node? l = some (.file text)) :
    t.locate p = .error .notADirectory := by
  obtain ⟨dots, last, -, steps⟩ := h.steps
  rw [locate_of_sound (h.flaw? sound some_text)] at ha
  rw [locate_of_sound sound, steps, List.append_assoc, List.foldlM_append, ha, ok_bind,
    foldlM_file file (by simp)]

end Above

end Storage.Tree

end Concretize
