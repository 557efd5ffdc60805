import Concretize.Proofs.Growth

/-!
# Making directories again

`Tree.makeDirectories` climbs from a path to the first one that is no gap, and makes one directory
after the other on the way back. Here storage is calm: it has no mishaps to come. Then a second call,
in storage that has grown since the first, ends as the first did.

The fault is the same, with one exception. A path may lead through a directory that is missing and by
`..` out of it to a file, as `gap/../file/below` does. The first call fills the gap and then finds
that the file is no directory it could make. The second finds no gap, so its way to `below` ends at
the file.

* `makeDirectoriesWithin_of_ne`, `makeDirectoriesWithin_of_eq`: the climb.
* `opens_of_makeDirectoriesWithin`: a climb that succeeds leads to a directory.
* `makeDirectoriesWithin_blocks`: a climb that fails leaves something that every later one meets.
* `makeDirectories_succeeds_again`, `makeDirectories_fails_again`: the second call.
-/
namespace Concretize

namespace Storage.Tree

variable {t t' g : Tree} {l k : Location} {p above : Path} {text : String} {fault : Fault}
  {bound : Nat}

/-! ## Calm storage -/

/-- Makes a directory whose parent exists, unless it is there. -/
def ensureDirectory (t : Tree) (p : Path) : Tree × Option Fault :=
  match t.locate p with
  | .error fault => (t, some fault)
  | .ok l =>
    match t.node? l with
    | none => (t.put l .directory, none)
    | some .directory => (t, none)
    | some (.file _) => (t, some .alreadyExists)

section Calm
variable (calm : t.mishaps = [])
include calm

theorem nextMishap_of_calm : t.nextMishap = (none, t) := by
  obtain ⟨nodes, mishaps⟩ := t
  cases calm
  rfl

theorem tryWrite_of_calm (p : Path) (text : String) :
    t.tryWrite p text =
      match t.write p text with
      | .ok t => (t, none)
      | .error fault => (t, some fault) := by
  have quiet := nextMishap_of_calm calm
  unfold tryWrite
  split
  · next hm =>
    rw [quiet] at hm
    cases hm
  · next hm =>
    rw [quiet] at hm
    cases hm
    rfl

theorem tryMakeDirectory_of_calm (p : Path) :
    t.tryMakeDirectory p =
      match t.makeDirectory p with
      | .ok t => (t, none)
      | .error fault => (t, some fault) := by
  have quiet := nextMishap_of_calm calm
  unfold tryMakeDirectory
  split
  · next hm =>
    rw [quiet] at hm
    cases hm
  · next hm =>
    rw [quiet] at hm
    cases hm
    rfl

/-- A failed attempt does no harm where the directory is there. -/
theorem ensureDirectory_eq (p : Path) :
    t.ensureDirectory p =
      match t.tryMakeDirectory p with
      | (t, none) => (t, none)
      | (t, some fault) => if t.isDirectory p then (t, none) else (t, some fault) := by
  rw [tryMakeDirectory_of_calm calm, ensureDirectory, makeDirectory]
  cases located : t.locate p with
  | error fault => simp [error_bind, isDirectory, located]
  | ok l =>
    simp only [ok_bind]
    cases hl : t.node? l with
    | none => simp
    | some n => cases n <;> simp [isDirectory, located, hl]

theorem tryMakeDirectory_eq_notFound :
    t.tryMakeDirectory p = (t', some .notFound) ↔ t.locate p = .error .notFound ∧ t' = t := by
  rw [tryMakeDirectory_of_calm calm, makeDirectory]
  cases located : t.locate p with
  | error fault => simp [error_bind, eq_comm, and_comm]
  | ok l =>
    simp only [ok_bind]
    cases hl : t.node? l <;> simp

/-- Unless the path leads to a gap, there is one attempt. -/
theorem makeDirectoriesWithin_of_ne (some_component : p.components ≠ [])
    (h : t.locate p ≠ .error .notFound) :
    t.makeDirectoriesWithin (bound + 1) p = t.ensureDirectory p := by
  rw [makeDirectoriesWithin, if_neg some_component, ensureDirectory_eq calm]
  split
  · next ht => rw [ht]
  · next ht => exact absurd ((tryMakeDirectory_eq_notFound calm).1 ht).1 h
  · next ht => rw [ht]

/-- At a gap, the directories above are made first. -/
theorem makeDirectoriesWithin_of_eq (some_component : p.components ≠ [])
    (h : t.locate p = .error .notFound) (up : p.parent? = some above) :
    t.makeDirectoriesWithin (bound + 1) p =
      match t.makeDirectoriesWithin bound above with
      | (t, some fault) => (t, some fault)
      | (t, none) => t.ensureDirectory p := by
  have gap := (tryMakeDirectory_eq_notFound calm).2 ⟨h, rfl⟩
  have later : (t.makeDirectoriesWithin bound above).1.mishaps = [] :=
    makeDirectoriesWithin_calm calm bound above
  rw [makeDirectoriesWithin, if_neg some_component, gap, up]
  simp only
  cases hm : t.makeDirectoriesWithin bound above with
  | mk t₁ failed =>
    rw [hm] at later
    cases failed with
    | none => exact (ensureDirectory_eq later p).symm
    | some fault => rfl

/-- A path that goes nowhere needs no directory. -/
theorem makeDirectoriesWithin_of_isIdle (idle : p.IsIdle) :
    t.makeDirectoriesWithin (bound + 1) p = (t, if p.components = [] then none else p.flaw?) := by
  by_cases he : p.components = []
  · rw [makeDirectoriesWithin, if_pos he, if_pos he]
  have opened : t.Opens p := opens_of_isIdle idle
  have some_text : p.text ≠ "" := fun e => he (Path.components_of_empty e)
  rw [if_neg he]
  cases hf : p.flaw? with
  | some fault =>
    have stuck := locate_of_flaw (t := t) hf
    rw [makeDirectoriesWithin_of_ne calm he, ensureDirectory, stuck]
    rw [stuck]
    rintro ⟨⟩
    exact Path.flaw?_ne_notFound some_text hf
  | none =>
    obtain ⟨l, located, hd⟩ := opened.locate hf
    have no_gap : t.locate p ≠ .error .notFound := fun gap => by rw [located] at gap; cases gap
    rw [makeDirectoriesWithin_of_ne calm he no_gap, ensureDirectory, located]
    simp only [hd]

end Calm

/-! ## Success -/

theorem opens_of_ensureDirectory (h : (t.ensureDirectory p).2 = none) :
    (t.ensureDirectory p).1.Opens p ∧ p.flaw? = none := by
  cases located : t.locate p with
  | error fault => rw [ensureDirectory, located] at h; cases h
  | ok l =>
    refine ⟨?_, flaw?_of_locate located⟩
    simp only [ensureDirectory, located] at h ⊢
    cases hl : t.node? l with
    | none =>
      have below : l ≠ [] := ne_nil_of_node? (by rw [hl]; nofun)
      have g := grows_put_directory hl
      exact opens_of_locate ((locate_of_grows g (by rw [located]; nofun)).trans located)
        (node?_put_self below)
    | some n =>
      cases n with
      | directory => exact opens_of_locate located hl
      | file text => rw [hl] at h; cases h

/-- Directories that were made are there. -/
theorem opens_of_makeDirectoriesWithin (calm : t.mishaps = []) (trim : p.IsTrim)
    (h : (t.makeDirectoriesWithin bound p).2 = none) :
    (t.makeDirectoriesWithin bound p).1.Opens p ∧ p.flaw? = none := by
  cases bound with
  | zero => cases h
  | succ bound =>
    by_cases gap : t.locate p = .error .notFound
    · obtain ⟨above, up, -⟩ := trim.parent?
      rw [makeDirectoriesWithin_of_eq calm trim.components_ne_nil gap up] at h ⊢
      split at h
      · cases h
      · next t₁ hm => exact opens_of_ensureDirectory h
    · rw [makeDirectoriesWithin_of_ne calm trim.components_ne_nil gap] at h ⊢
      exact opens_of_ensureDirectory h

theorem opens_of_climb (calm : t.mishaps = []) (shape : p.IsIdle ∨ p.IsTrim)
    (h : t.makeDirectoriesWithin bound p = (t', none)) : t'.Opens p := by
  rcases shape with idle | trim
  · exact opens_of_isIdle idle
  · have made := opens_of_makeDirectoriesWithin calm trim (congrArg Prod.snd h)
    rw [h] at made
    exact made.1

/-- Directories that are there are not made again. -/
theorem Opens.makeDirectoriesWithin (h : t.Opens p) (calm : t.mishaps = [])
    (trim : p.IsTrim) (sound : p.flaw? = none) :
    t.makeDirectoriesWithin (bound + 1) p = (t, none) := by
  obtain ⟨l, located, hd⟩ := h.locate sound
  rw [makeDirectoriesWithin_of_ne calm trim.components_ne_nil (by rw [located]; nofun),
    ensureDirectory, located]
  simp only [hd]

/-! ## Failure -/

/-- What stands in the way of making a directory, whatever else is made. -/
inductive Blocks (t : Tree) (p : Path) : Fault → Prop where
  | way {fault : Fault} (h : t.locate p = .error fault) (no_gap : fault ≠ .notFound) :
      Blocks t p fault
  | file {l : Location} {text : String} (h : t.locate p = .ok l)
      (hl : t.node? l = some (.file text)) : Blocks t p .alreadyExists

theorem Blocks.locate_ne_notFound (h : t.Blocks p fault) : t.locate p ≠ .error .notFound := by
  intro gap
  cases h with
  | way h no_gap =>
    rw [h] at gap
    cases gap
    exact no_gap rfl
  | file h _ =>
    rw [h] at gap
    cases gap

theorem Blocks.grows (h : t.Blocks p fault) (grown : t.Grows g) : g.Blocks p fault := by
  have again := locate_of_grows grown h.locate_ne_notFound
  cases h with
  | way h no_gap => exact .way (again.trans h) no_gap
  | file h hl =>
    obtain ⟨text', hl'⟩ := grown.file hl
    exact .file (again.trans h) hl'

theorem Blocks.makeDirectoriesWithin (h : t.Blocks p fault) (calm : t.mishaps = [])
    (trim : p.IsTrim) : t.makeDirectoriesWithin (bound + 1) p = (t, some fault) := by
  rw [makeDirectoriesWithin_of_ne calm trim.components_ne_nil h.locate_ne_notFound,
    ensureDirectory]
  cases h with
  | way h _ => rw [h]
  | file h hl => simp only [h, hl]

/-- A failed attempt that met no gap leaves what stood in its way. -/
theorem blocks_of_ensureDirectory (no_gap : t.locate p ≠ .error .notFound)
    (h : t.ensureDirectory p = (t', some fault)) : t' = t ∧ t.Blocks p fault := by
  rw [ensureDirectory] at h
  cases located : t.locate p with
  | error fault' =>
    rw [located] at h no_gap
    cases h
    exact ⟨rfl, .way located fun e => no_gap (by rw [e])⟩
  | ok l =>
    rw [located] at h
    simp only at h
    cases hl : t.node? l with
    | none => rw [hl] at h; cases h
    | some n =>
      rw [hl] at h
      cases n with
      | directory => cases h
      | file text =>
        cases h
        exact ⟨rfl, .file located hl⟩

/-- The fault of a later attempt, after a first one that met `fault`. -/
def Recurs (p : Path) (fault fault' : Fault) : Prop :=
  fault' = fault ∨ (".." ∈ p.steps ∧ fault = .alreadyExists ∧ fault' = .notADirectory)

/-- A detour above the path is a detour on it. -/
theorem Recurs.below {fault' : Fault} (h : Recurs above fault fault') (way : above.Above p) :
    Recurs p fault fault' := by
  obtain ⟨dots, last, -, steps⟩ := way.steps
  refine h.imp_right fun ⟨detour, faults⟩ => ⟨?_, faults⟩
  rw [steps]
  simp [detour]

theorem directory_of_enter {name : String} (h : t.enter k name = .ok l) :
    t.node? k = some .directory := by
  unfold enter at h
  split at h
  · cases h
  · cases h
  · next hd => exact hd

/-- What is reached downwards in a grown tree, and stood before, stood in a directory. -/
theorem Closed.above_there (closed : t.Closed) (grown : t.Grows g) {name : String}
    (down : name ≠ "..") (h : g.enter k name = .ok l) (there : t.node? l ≠ none) :
    t.node? k = some .directory := by
  have hd := directory_of_enter h
  obtain ⟨rfl, -⟩ := enter_eq_ok h
  unfold Path.advance at there
  split at there
  · cases hk : t.node? k with
    | none => exact absurd hk there
    | some n =>
      cases n with
      | directory => rfl
      | file text =>
        obtain ⟨text', hf⟩ := grown.file hk
        rw [hd] at hf
        cases hf
  · have above := closed _ there
    rwa [List.dropLast_concat] at above

/-- Down to what stands in a closed tree there is no gap. -/
theorem Closed.foldlM (closed : t.Closed) (grown : t.Grows g) {steps : List String}
    (down : ".." ∉ steps) (h : steps.foldlM g.enter [] = .ok l) (there : t.node? l ≠ none) :
    steps.foldlM t.enter [] = .ok l := by
  induction steps using List.reverseRecOn generalizing l with
  | nil => exact h
  | append_singleton steps last ih =>
    rw [List.mem_append, List.mem_singleton, not_or] at down
    rw [List.foldlM_append] at h ⊢
    cases hk : steps.foldlM g.enter [] with
    | error fault => rw [hk, error_bind] at h; cases h
    | ok k =>
      rw [hk, ok_bind, foldlM_single] at h
      have standing := closed.above_there grown (Ne.symm down.2) h there
      have back : t.enter k last = g.enter k last :=
        (enter_of_grows grown (enter_ne_notFound standing last)).symm
      rw [ih down.1 hk (by rw [standing]; nofun), ok_bind, foldlM_single, back, h]

section Gap
variable (closed : t.Closed) (h : above.Above p) (sound : p.flaw? = none)
  (some_text : above.text ≠ "") (gap : t.locate p = .error .notFound)
include closed h sound some_text gap

/-- A climb that ended at a file went up through `..`, or else the file would have been met before
any gap. -/
theorem detour_of_file (grown : t.Grows g) (located : g.locate above = .ok l)
    (there : t.node? l = some (.file text)) : ".." ∈ p.steps := by
  by_contra down
  obtain ⟨dots, last, -, steps⟩ := h.steps
  have down' : ".." ∉ above.steps := fun hm => down (by rw [steps]; simp [hm])
  have sound' := h.flaw? sound some_text
  rw [locate_of_sound sound'] at located
  have before := closed.foldlM grown down' located (by rw [there]; nofun)
  rw [locate_of_above_file h sound some_text ((locate_of_sound sound').trans before) there] at gap
  cases gap

/-- What stands in the way of the parent stands in the way of the path. -/
theorem blocks_of_above {fault' : Fault}
    (climb : t.makeDirectoriesWithin bound above = (t', some fault))
    (blocks : t'.Blocks above fault') (recurs : Recurs above fault fault') :
    ∃ fault', t'.Blocks p fault' ∧ Recurs p fault fault' := by
  have after : t' = (t.makeDirectoriesWithin bound above).1 := by rw [climb]
  cases blocks with
  | way located no_gap =>
    exact ⟨fault', .way (locate_of_above_error h sound some_text located) no_gap, recurs.below h⟩
  | file located hl =>
    refine ⟨.notADirectory, .way (locate_of_above_file h sound some_text located hl) nofun, ?_⟩
    have grown : t.Grows t' := after ▸ makeDirectoriesWithin_grows t bound above
    have there := file_of_makeDirectoriesWithin (after ▸ hl)
    have up := detour_of_file closed h sound some_text gap grown located there
    rcases recurs with e | ⟨-, -, e⟩
    · exact .inr ⟨up, e.symm, rfl⟩
    · cases e

end Gap

/-- The way up from a sound path can only fail at a component. -/
theorem isTrim_of_fails (calm : t.mishaps = []) (way : above.Above p) (sound : p.flaw? = none)
    (some_bound : 0 < bound) (h : t.makeDirectoriesWithin bound above = (t', some fault)) :
    above.IsTrim := by
  rcases way.shape with idle | trim
  · obtain ⟨bound, rfl⟩ := Nat.exists_eq_succ_of_ne_zero some_bound.ne'
    rw [makeDirectoriesWithin_of_isIdle calm idle] at h
    by_cases some_text : above.text = ""
    · rw [if_pos (Path.components_of_empty some_text)] at h
      cases h
    · rw [way.flaw? sound some_text, ite_self] at h
      cases h
  · exact trim

/-- A climb that fails leaves something that stands in the way of every later one. -/
theorem makeDirectoriesWithin_blocks (calm : t.mishaps = []) (closed : t.Closed) (trim : p.IsTrim)
    (enough : p.text.length < bound)
    (h : t.makeDirectoriesWithin bound p = (t', some fault)) :
    ∃ fault', t'.Blocks p fault' ∧ Recurs p fault fault' := by
  -- Each round climbs to a shorter text, so the bound is never used up.
  induction bound generalizing p t' fault with
  | zero => omega
  | succ bound ih =>
    have some_component := trim.components_ne_nil
    by_cases gap : t.locate p = .error .notFound
    · obtain ⟨above, up, way⟩ := trim.parent?
      have sound := flaw?_of_gap way.text_ne_empty gap
      have shorter := way.length_lt
      rw [makeDirectoriesWithin_of_eq calm some_component gap up] at h
      cases hm : t.makeDirectoriesWithin bound above with
      | mk t₁ failed =>
        rw [hm] at h
        cases failed with
        | none =>
          have opened := opens_of_climb calm way.shape hm
          obtain ⟨rfl, blocks⟩ := blocks_of_ensureDirectory (opened.locate_ne_notFound way) h
          exact ⟨fault, blocks, .inl rfl⟩
        | some fault₁ =>
          cases h
          have trim' := isTrim_of_fails calm way sound (by omega) hm
          obtain ⟨fault', blocks, recurs⟩ := ih trim' (by omega) hm
          exact blocks_of_above closed way sound trim'.text_ne_empty gap hm blocks recurs
    · rw [makeDirectoriesWithin_of_ne calm some_component gap] at h
      obtain ⟨rfl, blocks⟩ := blocks_of_ensureDirectory gap h
      exact ⟨fault, blocks, .inl rfl⟩

/-! ## Again -/

section Again
variable (calm : t.mishaps = []) (calm' : g.mishaps = [])
include calm calm'

theorem makeDirectories_succeeds_again (shape : p.IsIdle ∨ p.IsTrim)
    (h : t.makeDirectories p = (t', none)) (grown : t'.Grows g) :
    t'.Opens p ∧ g.makeDirectories p = (g, none) := by
  unfold makeDirectories at h ⊢
  have opened := opens_of_climb calm shape h
  refine ⟨opened, ?_⟩
  rcases shape with idle | trim
  · rw [makeDirectoriesWithin_of_isIdle calm idle, Prod.mk.injEq] at h
    rw [makeDirectoriesWithin_of_isIdle calm' idle, h.2]
  · obtain ⟨-, sound⟩ := opens_of_makeDirectoriesWithin calm trim (congrArg Prod.snd h)
    exact (opened.grows grown).makeDirectoriesWithin calm' trim sound

theorem makeDirectories_fails_again (closed : t.Closed) (shape : p.IsIdle ∨ p.IsTrim)
    (h : t.makeDirectories p = (t', some fault)) (grown : t'.Grows g) :
    ∃ fault', g.makeDirectories p = (g, some fault') ∧ Recurs p fault fault' := by
  unfold makeDirectories at h ⊢
  rcases shape with idle | trim
  · rw [makeDirectoriesWithin_of_isIdle calm idle, Prod.mk.injEq] at h
    exact ⟨fault, by rw [makeDirectoriesWithin_of_isIdle calm' idle, h.2], .inl rfl⟩
  · obtain ⟨fault', blocks, recurs⟩ :=
      makeDirectoriesWithin_blocks calm closed trim (by omega) h
    exact ⟨fault', (blocks.grows grown).makeDirectoriesWithin calm' trim, recurs⟩

end Again

end Storage.Tree

end Concretize
