import Concretize.Output
import Concretize.Proofs.Path

/-!
# What a write leaves alone

Storage only grows: a write changes no directory, and at most the file that its path leads to.
`Tree.Spares l` says this of two trees and the location `l`. It holds whether the write succeeds or
not, and whatever mishaps befall it.

* `locate_of_spares`, `read_of_spares`: what was found is found again, unless it was the file at
  `l`.
* `writeFile_induct`: a write puts directories where nothing stands, and a file where no directory
  stands, so it preserves what these steps preserve.
* `writeFile_spares`, `read_writeFile`: a file is written with all missing directories, everything
  else is spared, and a file whose write succeeded is read back.
-/
namespace Concretize

namespace Storage.Tree

variable {t t' t'' : Tree} {l k : Location} {p q : Path} {text : String} {n : Node}

/-! ## Nodes -/

theorem lookup_filter_ne {nodes : List (Location × Node)} (h : k ≠ l) :
    (nodes.filter (·.1 ≠ l)).lookup k = nodes.lookup k := by
  induction nodes with
  | nil => rfl
  | cons node nodes ih =>
    obtain ⟨m, n⟩ := node
    by_cases hm : m = l
    · have hk : (k == m) = false := by simp [hm, h]
      simp [hm, List.lookup_cons, ← ih, hm ▸ hk]
    · by_cases hk : k = m <;> simp [hm, List.lookup_cons, hk, ← ih]

theorem node?_put_self (h : l ≠ []) : (t.put l n).node? l = some n := by
  simp [node?, put, h]

theorem node?_put_ne (h : k ≠ l) : (t.put l n).node? k = t.node? k := by
  have hb : (k == l) = false := by simp [h]
  simp only [node?, put, List.lookup_cons, hb, lookup_filter_ne h]

/-! ## Sparing -/

/-- Everything that stood in `t` stands in `t'`, except perhaps a file at `l`. -/
def Spares (l : Location) (t t' : Tree) : Prop :=
  ∀ k n, t.node? k = some n → k ≠ l ∨ n = .directory → t'.node? k = some n

theorem Spares.refl (l : Location) (t : Tree) : t.Spares l t := fun _ _ h _ => h

theorem Spares.trans (h : t.Spares l t') (h' : t'.Spares l t'') : t.Spares l t'' :=
  fun k n hn hk => h' k n (h k n hn hk) hk

theorem Spares.directory (h : t.Spares l t') (hk : t.node? k = some .directory) :
    t'.node? k = some .directory :=
  h k _ hk (.inr rfl)

theorem spares_put (h : t.node? l ≠ some .directory) : t.Spares l (t.put l n) := by
  intro k m hm hk
  by_cases hkl : k = l
  · subst hkl
    exact absurd (hk.resolve_left (fun ne => ne rfl) ▸ hm) h
  · rw [node?_put_ne hkl, hm]

/-- Something new does not get in the way of anything. -/
theorem spares_put_new (h : t.node? k = none) : t.Spares l (t.put k n) := by
  intro m o hm _
  have hmk : m ≠ k := fun e => by rw [e, h] at hm; cases hm
  rw [node?_put_ne hmk, hm]

/-! ## Finding -/

theorem enter_eq_ok {name : String} (h : t.enter l name = .ok k) :
    k = Path.advance l name ∧ ∀ t' m, t.Spares m t' → t'.enter l name = .ok k := by
  unfold enter at h
  split at h
  · cases h
  · cases h
  · next hd =>
    constructor
    · unfold Path.advance
      split at h
      · next hn => cases h; rw [if_pos hn]
      · next hn =>
        split at h
        · next hn' => cases h; rw [if_neg hn, if_pos hn']
        · next hn' => split at h <;> cases h; rw [if_neg hn, if_neg hn']
    · intro t' m hs
      rw [enter, hs.directory hd]
      exact h

theorem foldlM_enter_eq_ok {steps : List String} (h : steps.foldlM t.enter l = .ok k) :
    k = steps.foldl Path.advance l ∧ ∀ t' m, t.Spares m t' → steps.foldlM t'.enter l = .ok k := by
  induction steps generalizing l with
  | nil =>
    cases h
    exact ⟨rfl, fun _ _ _ => rfl⟩
  | cons step steps ih =>
    rw [List.foldlM_cons] at h
    cases hs : t.enter l step with
    | error fault => rw [hs] at h; cases h
    | ok next =>
      rw [hs] at h
      obtain ⟨rfl, again⟩ := enter_eq_ok hs
      obtain ⟨rfl, again'⟩ := ih h
      refine ⟨rfl, fun t' m spared => ?_⟩
      rw [List.foldlM_cons, again t' m spared]
      exact again' t' m spared

theorem locate_eq_ok_iff : t.locate p = .ok l ↔
    (p.text.toList.any (· = '\x00') = false ∧ p.text ≠ "" ∧ p.text.utf8ByteSize ≤ pathLimit) ∧
      p.steps.foldlM t.enter [] = .ok l := by
  unfold locate Path.steps
  split
  · next h => simp [h]
  split
  · next h => simp [h]
  split
  · next h => simp [Nat.not_le.2 h]
  · next hz he hl => simp [hz, he, Nat.not_lt.1 hl]

/-- A path that is found leads to its target. -/
theorem target_of_locate (h : t.locate p = .ok l) : l = p.target :=
  (foldlM_enter_eq_ok (locate_eq_ok_iff.1 h).2).1

theorem locate_of_spares (hs : t.Spares k t') (h : t.locate p = .ok l) : t'.locate p = .ok l := by
  obtain ⟨sound, found⟩ := locate_eq_ok_iff.1 h
  exact locate_eq_ok_iff.2 ⟨sound, (foldlM_enter_eq_ok found).2 t' k hs⟩

theorem read_eq_ok_iff : t.read p = .ok text ↔
    t.locate p = .ok p.target ∧ t.node? p.target = some (.file text) ∧
      wantsDirectory p = false := by
  unfold read
  cases located : t.locate p with
  | error fault => simp [bind, Except.bind]
  | ok l =>
    obtain rfl := target_of_locate located
    simp only [bind, Except.bind, true_and]
    cases t.node? p.target with
    | none => simp
    | some n =>
      cases n with
      | directory => simp
      | file s => cases wantsDirectory p <;> simp

/-- A file elsewhere is read as before. -/
theorem read_of_spares (hs : t.Spares l t') (hl : p.target ≠ l) (h : t.read p = .ok text) :
    t'.read p = .ok text := by
  obtain ⟨located, found, file⟩ := read_eq_ok_iff.1 h
  exact read_eq_ok_iff.2 ⟨locate_of_spares hs located, hs _ _ found (.inl hl), file⟩

/-! ## Writing -/

theorem write_eq_ok_iff : t.write p text = .ok t' ↔
    t.locate p = .ok p.target ∧ wantsDirectory p = false ∧ t.node? p.target ≠ some .directory ∧
      t' = t.put p.target (.file text) := by
  unfold write
  cases located : t.locate p with
  | error fault => simp [bind, Except.bind]
  | ok l =>
    obtain rfl := target_of_locate located
    simp only [bind, Except.bind, true_and]
    cases wantsDirectory p with
    | true => simp
    | false =>
      cases t.node? p.target with
      | none => simp [eq_comm]
      | some n => cases n <;> simp [eq_comm]

theorem write_spares (h : t.write p text = .ok t') : t.Spares p.target t' := by
  obtain ⟨-, -, free, rfl⟩ := write_eq_ok_iff.1 h
  exact spares_put free

theorem read_of_write (h : t.write p text = .ok t') : t'.read p = .ok text := by
  have spared := write_spares h
  obtain ⟨located, file, free, rfl⟩ := write_eq_ok_iff.1 h
  have below : p.target ≠ [] := fun e => free (by rw [e]; rfl)
  exact read_eq_ok_iff.2 ⟨locate_of_spares spared located, node?_put_self below, file⟩

theorem read_tryWrite (h : (t.tryWrite p text).2 = none) :
    (t.tryWrite p text).1.read p = .ok text := by
  unfold tryWrite at h ⊢
  split at h
  · split at h <;> cases h
  · split at h
    · next hw => exact read_of_write hw
    · cases h

/-! ## What a write preserves -/

section Induction
variable {I : Tree → Prop} (next : ∀ t, I t → I t.nextMishap.2)
  (made : ∀ t p l, I t → t.locate p = .ok l → t.node? l = none → I (t.put l .directory))
  (written : ∀ t l text, I t → t.locate p = .ok l → t.node? l ≠ some .directory →
    I (t.put l (.file text)))

section Directories
include next made

/-- An attempt puts a directory where nothing stands, or nothing. -/
theorem tryMakeDirectory_induct (h : I t) (p : Path) : I (t.tryMakeDirectory p).1 := by
  have later : I t.nextMishap.2 := next t h
  unfold tryMakeDirectory
  split
  · next hm =>
    rw [hm] at later
    exact later
  · next t₁ hm =>
    rw [hm] at later
    cases hd : t₁.makeDirectory p with
    | error fault => exact later
    | ok t₂ =>
      unfold makeDirectory at hd
      cases located : t₁.locate p with
      | error fault => rw [located] at hd; cases hd
      | ok l =>
        rw [located] at hd
        simp only [bind, Except.bind] at hd
        split at hd
        · cases hd
        · next free => cases hd; exact made _ _ _ later located free

theorem makeDirectoriesWithin_induct (h : I t) (bound : Nat) (p : Path) :
    I (t.makeDirectoriesWithin bound p).1 := by
  have attempt {t : Tree} (h : I t) := tryMakeDirectory_induct next made h
  induction bound generalizing t p with
  | zero => exact h
  | succ bound ih =>
    have first := attempt h p
    rw [makeDirectoriesWithin]
    split
    · exact h
    · split
      · next ht => exact ht ▸ first
      · next t₁ ht =>
        rw [ht] at first
        split
        · exact first
        · next above _ =>
          have others := ih first above
          split
          · next ho => exact ho ▸ others
          · next t₂ ho =>
            rw [ho] at others
            have last := attempt others p
            split
            · next hl => exact hl ▸ last
            · next hl =>
              rw [hl] at last
              split <;> exact last
      · next ht =>
        rw [ht] at first
        split <;> exact first

end Directories

include next written

/-- A write puts a file where no directory stands, or nothing. -/
theorem tryWrite_induct (h : I t) : I (t.tryWrite p text).1 := by
  have later : I t.nextMishap.2 := next t h
  have wrote {t t' : Tree} {text : String} (h : I t) (hw : t.write p text = .ok t') : I t' := by
    obtain ⟨located, -, free, rfl⟩ := write_eq_ok_iff.1 hw
    exact written _ _ _ h located free
  unfold tryWrite
  split
  · next m t₁ hm =>
    rw [hm] at later
    split
    · next t₂ hw =>
      obtain ⟨left, -, hw⟩ := Option.map_eq_some_iff.1 hw
      exact wrote later hw
    · exact later
  · next t₁ hm =>
    rw [hm] at later
    split
    · next t₂ hw => exact wrote later hw
    · exact later

end Induction

/-- Directories are made where nothing stands. -/
theorem makeDirectories_spares : t.Spares l (t.makeDirectories p).1 :=
  makeDirectoriesWithin_induct (I := t.Spares l) (fun _ h => h)
    (fun _ _ _ h _ free => h.trans (spares_put_new free)) (.refl l t) _ p

end Storage.Tree

variable {t : Storage.Tree} {p : Storage.Path} {text : String}

section Induction
variable {I : Storage.Tree → Prop} (next : ∀ t, I t → I t.nextMishap.2)
  (made : ∀ t p l, I t → t.locate p = .ok l → t.node? l = none → I (t.put l .directory))
  (written : ∀ t l text, I t → t.locate p = .ok l → t.node? l ≠ some .directory →
    I (t.put l (.file text)))
include next made written

/-- What the steps of a write preserve, the write preserves, whether or not it succeeds. -/
theorem writeFile_induct (h : I t) : I (writeFile t p text).1 := by
  unfold writeFile
  cases p.parent? with
  | none => exact Storage.Tree.tryWrite_induct next written h
  | some above =>
    have ready : I (t.makeDirectories above).1 :=
      Storage.Tree.makeDirectoriesWithin_induct next made h _ above
    simp only
    cases (t.makeDirectories above).2 with
    | none => exact Storage.Tree.tryWrite_induct next written ready
    | some fault => exact ready

end Induction

/-- Whether or not a file is written, everything else is spared. -/
theorem writeFile_spares : t.Spares p.target (writeFile t p text).1 :=
  writeFile_induct (I := t.Spares p.target) (fun _ h => h)
    (fun _ _ _ h _ free => h.trans (Storage.Tree.spares_put_new free))
    (fun _ _ _ h located free => by
      rw [Storage.Tree.target_of_locate located] at free ⊢
      exact h.trans (Storage.Tree.spares_put free)) (.refl _ t)

/-- A file that was written is read back. -/
theorem read_writeFile (h : (writeFile t p text).2 = none) :
    (writeFile t p text).1.read p = .ok text := by
  unfold writeFile at h ⊢
  cases hp : p.parent? with
  | none =>
    simp only [hp, Option.map_eq_none_iff] at h ⊢
    exact Storage.Tree.read_tryWrite h
  | some above =>
    simp only [hp] at h ⊢
    cases hf : (t.makeDirectories above).2 with
    | none =>
      simp only [hf, Option.map_none, Option.map_eq_none_iff] at h ⊢
      exact Storage.Tree.read_tryWrite h
    | some fault =>
      rw [hf] at h
      cases h

end Concretize
