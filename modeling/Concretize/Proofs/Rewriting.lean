import Concretize.Proofs.Climb

/-!
# Writing a file again

A file is written a second time, in storage that has grown since and has no mishaps to come. What
succeeded succeeds again and only renews the text. What failed fails again and changes nothing
(`writeFile_again`). The error names the same path; its fault can differ as that of
`makeDirectories_fails_again` can.
-/
namespace Concretize

namespace Storage.Tree

variable {t t' g : Tree} {p : Path} {text : String} {fault : Fault}

theorem write_succeeds_again (h : t.write p text = .ok t') (grown : t'.Grows g) :
    g.write p text = .ok (g.put p.target (.file text)) := by
  have spared := write_spares h
  obtain ⟨located, file, free, rfl⟩ := write_eq_ok_iff.1 h
  obtain ⟨text', hl⟩ := grown.file (node?_put_self (ne_nil_of_node? free))
  have again := locate_of_grows grown (p := p) (by rw [locate_of_spares spared located]; nofun)
  refine write_eq_ok_iff.2 ⟨again.trans (locate_of_spares spared located), file, ?_, rfl⟩
  rw [hl]
  nofun

theorem write_fails_again (no_gap : t.locate p ≠ .error .notFound)
    (h : t.write p text = .error fault) (grown : t.Grows g) : g.write p text = .error fault := by
  unfold write at h ⊢
  rw [locate_of_grows grown no_gap]
  cases located : t.locate p with
  | error fault' => rw [located] at h; exact h
  | ok l =>
    rw [located, ok_bind] at h
    rw [ok_bind]
    split at h
    · next wants => rw [if_pos wants]; exact h
    · next wants =>
      rw [if_neg wants]
      cases hl : t.node? l with
      | none => rw [hl] at h; cases h
      | some n =>
        rw [hl] at h
        cases n with
        | directory => rw [grown.directory hl]; exact h
        | file text => cases h

end Storage.Tree

variable {t g : Storage.Tree} {p above : Storage.Path} {text : String}

/-- The error of a later write, after a first one that met `e`. -/
def RecursAs (p : Storage.Path) (e e' : OutputError) : Prop :=
  ∃ q fault fault', e = .storage q fault ∧ e' = .storage q fault' ∧
    Storage.Tree.Recurs p fault fault'

section Write
variable (calm : t.mishaps = [])
include calm

theorem writeFile_eq (up : p.parent? = some above) (text : String) :
    writeFile t p text =
      match t.makeDirectories above with
      | (t, some fault) => (t, some (.storage above fault))
      | (t, none) =>
        match t.write p text with
        | .ok t => (t, none)
        | .error fault => (t, some (.storage p fault)) := by
  have later : (t.makeDirectories above).1.mishaps = [] :=
    Storage.Tree.makeDirectoriesWithin_calm calm _ above
  cases hm : t.makeDirectories above with
  | mk t₁ failed =>
    rw [hm] at later
    cases failed with
    | some fault => simp only [writeFile, up, hm, Option.map_some]
    | none =>
      simp only [writeFile, up, hm, Option.map_none, Storage.Tree.tryWrite_of_calm later]
      cases t₁.write p text <;> rfl

/-- In calm storage, a write that fails spares all files. -/
theorem writeFile_spares_of_failed (trim : p.IsTrim) (failed : (writeFile t p text).2 ≠ none)
    (l : Storage.Location) : t.Spares l (writeFile t p text).1 := by
  obtain ⟨above, up, -⟩ := trim.parent?
  have spared : t.Spares l (t.makeDirectories above).1 := Storage.Tree.makeDirectories_spares
  rw [writeFile_eq calm up] at failed ⊢
  cases hm : t.makeDirectories above with
  | mk t₁ refused =>
    rw [hm] at spared failed
    cases refused with
    | some fault => exact spared
    | none =>
      cases hw : t₁.write p text with
      | ok t₂ => simp [hw] at failed
      | error fault => simpa [hw] using spared

/-- **The second write.** In storage that has grown since, it succeeds if the first did and renews
the text; else it fails as well and changes nothing. -/
theorem writeFile_again (closed : t.Closed) (calm' : g.mishaps = []) (trim : p.IsTrim)
    (grown : (writeFile t p text).1.Grows g) :
    ((writeFile t p text).2 = none ∧ writeFile g p text = (g.put p.target (.file text), none)) ∨
      ∃ e e', (writeFile t p text).2 = some e ∧ writeFile g p text = (g, some e') ∧
        RecursAs p e e' := by
  obtain ⟨above, up, way⟩ := trim.parent?
  rw [writeFile_eq calm up] at grown ⊢
  rw [writeFile_eq calm' up]
  cases hm : t.makeDirectories above with
  | mk t₁ refused =>
    rw [hm] at grown
    cases refused with
    | some fault =>
      obtain ⟨fault', again, recurs⟩ :=
        Storage.Tree.makeDirectories_fails_again calm calm' closed way.shape hm grown
      rw [again]
      exact .inr ⟨_, _, rfl, rfl, above, fault, fault', rfl, rfl, recurs.below way⟩
    | none =>
      cases hw : t₁.write p text with
      | ok t₂ =>
        simp only [hw] at grown
        have grown₁ : t₁.Grows g := by
          obtain ⟨-, -, free, rfl⟩ := Storage.Tree.write_eq_ok_iff.1 hw
          exact (Storage.Tree.grows_put_file free).trans grown
        obtain ⟨-, again⟩ :=
          Storage.Tree.makeDirectories_succeeds_again calm calm' way.shape hm grown₁
        have rewritten := Storage.Tree.write_succeeds_again hw grown
        exact .inl ⟨by simp only [hw], by simp only [again, rewritten]⟩
      | error fault =>
        simp only [hw] at grown
        obtain ⟨opened, again⟩ :=
          Storage.Tree.makeDirectories_succeeds_again calm calm' way.shape hm grown
        have refused := Storage.Tree.write_fails_again (opened.locate_ne_notFound way) hw grown
        exact .inr ⟨_, _, by simp only [hw], by simp only [again, refused], p, fault, fault, rfl, rfl,
          .inl rfl⟩

end Write

end Concretize
