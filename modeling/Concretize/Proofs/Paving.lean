import Concretize.Proofs.Rewriting
import Mathlib.Data.List.TakeWhile

/-!
# What a write lays down

Below a directory where nothing but directories is in the way, the effect of a write does not depend
on what else stands in storage. Here storage is calm.

* `foldlM_names`: how far steps lead down from a directory.
* `makeDirectories_lays`: the directories made for a path, and the fault met on the way, can be told
  from the path alone (`Path.paved`, `Path.obstacle?`).
* `writeFile_lays`: so can the effect of a write, but for one thing, namely whether a directory
  stands where the file should go.
-/
namespace Concretize

namespace Storage

/-- Whether a name is short enough. -/
def fits (name : String) : Bool := name.utf8ByteSize ≤ nameLimit

/-- Whether a location is on the way from a root down some names, both ends included. -/
def OnWay (root : Location) (names : List String) (l : Location) : Prop :=
  root <+: l ∧ l <+: root ++ names

instance (root : Location) (names : List String) (l : Location) : Decidable (OnWay root names l) :=
  inferInstanceAs (Decidable (_ ∧ _))

variable {root l : Location} {name : String} {names : List String}

theorem onWay_iff : OnWay root names l ↔ ∃ down, down <+: names ∧ l = root ++ down := by
  constructor
  · rintro ⟨⟨down, rfl⟩, below⟩
    exact ⟨down, (List.prefix_append_right_inj root).1 below, rfl⟩
  · rintro ⟨down, below, rfl⟩
    exact ⟨List.prefix_append _ _, (List.prefix_append_right_inj root).2 below⟩

theorem onWay_root : OnWay root names root := onWay_iff.2 ⟨[], List.nil_prefix, by simp⟩

theorem onWay_nil : OnWay root [] l ↔ l = root := by
  simp [onWay_iff]

theorem onWay_cons :
    OnWay root (name :: names) l ↔ l = root ∨ OnWay (root ++ [name]) names l := by
  simp only [onWay_iff, List.prefix_cons_iff]
  constructor
  · rintro ⟨down, rfl | ⟨down, rfl, below⟩, rfl⟩
    · exact .inl (List.append_nil root)
    · exact .inr ⟨down, below, by simp⟩
  · rintro (rfl | ⟨down, below, rfl⟩)
    · exact ⟨[], .inl rfl, by simp⟩
    · exact ⟨name :: down, .inr ⟨down, rfl, below⟩, by simp⟩

theorem onWay_concat :
    OnWay root (names ++ [name]) l ↔ OnWay root names l ∨ l = root ++ names ++ [name] := by
  simp only [onWay_iff, List.prefix_concat_iff]
  constructor
  · rintro ⟨down, rfl | below, rfl⟩
    · exact .inr (by simp)
    · exact .inl ⟨down, below, rfl⟩
  · rintro (⟨down, below, rfl⟩ | rfl)
    · exact ⟨down, .inr below, rfl⟩
    · exact ⟨names ++ [name], .inl rfl, by simp⟩

theorem OnWay.mono {names' : List String} (h : OnWay root names l) (longer : names <+: names') :
    OnWay root names' l := by
  obtain ⟨down, below, rfl⟩ := onWay_iff.1 h
  exact onWay_iff.2 ⟨down, below.trans longer, rfl⟩

theorem onWay_end (root : Location) (names : List String) : OnWay root names (root ++ names) :=
  onWay_iff.2 ⟨names, List.prefix_refl names, rfl⟩

theorem OnWay.of_ne (h : OnWay root names l) (ne : l ≠ root ++ names) :
    OnWay root names.dropLast l := by
  rcases List.eq_nil_or_concat names with rfl | ⟨front, last, rfl⟩
  · exact h
  · rw [List.concat_eq_append] at h ne ⊢
    rw [List.dropLast_concat]
    exact (onWay_concat.1 h).resolve_right (by rwa [List.append_assoc])

/-- What keeps directories from being made down some names, if nothing stands in the way. -/
def longName? (names : List String) : Option Fault :=
  if names.all fits then none else some .nameTooLong

namespace Path

/-- What keeps the directories of a path from being made, if nothing stands in the way. -/
def obstacle? (p : Path) (names : List String) : Option Fault :=
  if p.components = [] then none else p.flaw?.or (longName? names)

/-- The names down which directories are made for a path. -/
def paved (p : Path) (names : List String) : List String :=
  if p.flaw? = none then names.takeWhile fits else []

theorem prefix_paved (p : Path) (names : List String) : p.paved names <+: names := by
  rw [paved]
  split
  · exact List.takeWhile_prefix fits
  · exact List.nil_prefix

/-- What keeps a file from being written in its directory. -/
def fault? (p : Path) (names : List String) (occupied : Bool) : Option Fault :=
  p.flaw?.or ((longName? names).or (if occupied then some .isADirectory else none))

end Path

namespace Tree

variable {t t' : Tree} {p above : Path} {text : String} {fault : Fault} {failed : Option Fault}
  {bound : Nat}

/-! ## Down from a directory -/

/-- The root is a directory, and no file is on the way down the names. -/
structure Clear (t : Tree) (root : Location) (names : List String) : Prop where
  ground : t.node? root = some .directory
  files : ∀ l text, OnWay root names l → t.node? l ≠ some (.file text)

/-- All of the way down the names are directories. -/
def Paved (t : Tree) (root : Location) (names : List String) : Prop :=
  ∀ l, OnWay root names l → t.node? l = some .directory

theorem Paved.clear (h : t.Paved root names) : t.Clear root names where
  ground := h _ onWay_root
  files l text way := by
    rw [h l way]
    nofun

theorem Clear.mono {names' : List String} (h : t.Clear root names') (shorter : names <+: names') :
    t.Clear root names where
  ground := h.ground
  files l text way := h.files l text (way.mono shorter)

theorem Paved.cons (ground : t.node? root = some .directory)
    (h : t.Paved (root ++ [name]) names) : t.Paved root (name :: names) := by
  intro l way
  rcases onWay_cons.1 way with rfl | way
  · exact ground
  · exact h l way

theorem paved_nil (ground : t.node? root = some .directory) : t.Paved root [] := by
  intro l way
  rw [onWay_nil.1 way, ground]

theorem enter_dot (ground : t.node? root = some .directory) : t.enter root "." = .ok root := by
  rw [enter, ground]
  rfl

/-- One step down from a directory only depends on the name. -/
theorem enter_name (ground : t.node? root = some .directory) (dot : name ≠ ".")
    (down : name ≠ "..") :
    t.enter root name = if fits name then .ok (root ++ [name]) else .error .nameTooLong := by
  rw [enter, ground]
  simp only [dot, down, if_false, fits, decide_eq_true_eq, ← Nat.not_lt]
  split <;> simp [*]

/-- The end of the way down some names, as far as the names are short enough. -/
inductive Led (t : Tree) (root : Location) (names : List String) :
    Except Fault Location → Prop where
  | there (short : names.all fits) (paved : t.Paved root names.dropLast) :
      Led t root names (.ok (root ++ names))
  | long (h : names.all fits = false) (paved : t.Paved root (names.takeWhile fits)) :
      Led t root names (.error .nameTooLong)
  | gap (some_name : names ≠ []) : Led t root names (.error .notFound)

/-- Steps down from a directory lead to their end, to a name that is too long, or to a gap. -/
theorem foldlM_names {steps : List String} (down : ".." ∉ steps)
    (clear : t.Clear root (steps.filter (· ≠ "."))) :
    t.Led root (steps.filter (· ≠ ".")) (steps.foldlM t.enter root) := by
  induction steps generalizing root with
  | nil =>
    have there : t.Led root [] (.ok (root ++ [])) := .there rfl (paved_nil clear.ground)
    rw [List.append_nil] at there
    exact there
  | cons step steps ih =>
    rw [List.mem_cons, not_or] at down
    rw [List.foldlM_cons]
    by_cases dot : step = "."
    · subst dot
      rw [enter_dot clear.ground, ok_bind]
      exact ih down.2 clear
    rw [List.filter_cons_of_pos (by simpa using dot)] at clear ⊢
    rw [enter_name clear.ground dot (Ne.symm down.1)]
    by_cases short : fits step
    · rw [if_pos short, ok_bind]
      cases next : t.node? (root ++ [step]) with
      | none =>
        cases steps with
        | nil =>
          exact .there (by simpa using short) (paved_nil clear.ground)
        | cons after steps =>
          rw [List.foldlM_cons, enter, next, error_bind]
          exact .gap (List.cons_ne_nil _ _)
      | some n =>
        have here : OnWay root (step :: steps.filter (· ≠ ".")) (root ++ [step]) :=
          onWay_cons.2 (.inr onWay_root)
        cases n with
        | file text => exact absurd next (clear.files _ text here)
        | directory =>
          have clear' : t.Clear (root ++ [step]) (steps.filter (· ≠ ".")) :=
            ⟨next, fun l text way => clear.files l text (onWay_cons.2 (.inr way))⟩
          have led := ih down.2 clear'
          generalize steps.foldlM t.enter (root ++ [step]) = outcome at led ⊢
          generalize steps.filter (· ≠ ".") = names at led ⊢
          cases led with
          | there shorter paved =>
            rw [List.append_assoc]
            refine .there (by simpa [short] using shorter) ?_
            cases names with
            | nil => exact paved_nil clear.ground
            | cons after names => exact paved.cons clear.ground
          | long h paved =>
            refine .long (by simp [h]) ?_
            rw [List.takeWhile_cons_of_pos short]
            exact paved.cons clear.ground
          | gap => exact .gap (List.cons_ne_nil _ _)
    · rw [if_neg short, error_bind]
      refine .long (by simp [short]) ?_
      rw [List.takeWhile_cons_of_neg short]
      exact paved_nil clear.ground

/-- The first steps lead to the root, and the others down the names. -/
def Leads (t : Tree) (steps : List String) (root : Location) (names : List String) : Prop :=
  ∃ front rest, steps = front ++ rest ∧ front.foldlM t.enter [] = .ok root ∧ ".." ∉ rest ∧
    rest.filter (· ≠ ".") = names

theorem Leads.led {steps : List String} (h : t.Leads steps root names)
    (clear : t.Clear root names) : t.Led root names (steps.foldlM t.enter []) := by
  obtain ⟨front, rest, rfl, reached, down, rfl⟩ := h
  rw [List.foldlM_append, reached, ok_bind]
  exact foldlM_names down clear

theorem Leads.grows {steps : List String} (h : t.Leads steps root names) (grown : t.Grows t') :
    t'.Leads steps root names := by
  obtain ⟨front, rest, split, reached, others⟩ := h
  have again : front.foldlM t'.enter [] = front.foldlM t.enter [] :=
    foldlM_of_grows grown (by rw [reached]; nofun)
  exact ⟨front, rest, split, again.trans reached, others⟩

/-- A path that goes nowhere leads down no name. -/
theorem Leads.names_of_isIdle (h : t.Leads p.steps root names) (idle : p.IsIdle) : names = [] := by
  obtain ⟨front, rest, split, -, -, rfl⟩ := h
  refine List.filter_eq_nil_iff.2 fun step hs => ?_
  have dot := idle step (by rw [split]; exact List.mem_append_right _ hs)
  simp [dot]

theorem foldlM_idle {steps : List String} (idle : ∀ step ∈ steps, step = ".")
    (h : steps.foldlM t.enter l = .ok root) : l = root := by
  obtain ⟨rfl, -⟩ := foldlM_enter_eq_ok h
  have down : ".." ∉ steps := fun hm => absurd (idle _ hm) (by decide)
  have none_left : steps.filter (· ≠ ".") = [] :=
    List.filter_eq_nil_iff.2 fun step hs => by simp [idle step hs]
  rw [Path.foldl_advance down, none_left, List.append_nil]

/-- A path that ends in a component ends in a step that goes somewhere. -/
theorem getLast_steps (trim : p.IsTrim) {steps : List String} {last : String}
    (h : p.steps = steps ++ [last]) : last ≠ "." := by
  obtain ⟨front, piece, pieces, busy⟩ := trim
  rw [← Bool.not_eq_true, Path.isIdle_iff, not_or] at busy
  rw [Path.steps, pieces, List.filter_append, List.filter_cons_of_pos (by simpa using busy.1),
    List.filter_nil] at h
  obtain ⟨-, e⟩ := List.append_inj' h rfl
  rw [← List.singleton_inj.1 e]
  exact busy.2

/-- The way up from a path that ends in a name leads down all names but this one. -/
theorem Leads.up (h : t.Leads p.steps root names) (some_name : names ≠ [])
    (way : above.Above p) (trim : p.IsTrim) :
    ∃ dirs file, names = dirs ++ [file] ∧ t.Leads above.steps root dirs := by
  obtain ⟨front, rest, split, reached, down, rfl⟩ := h
  obtain ⟨dots, last, idle, steps⟩ := way.steps
  have skipped : dots.filter (· ≠ ".") = [] :=
    List.filter_eq_nil_iff.2 fun step hs => by simp [idle step hs]
  rcases List.eq_nil_or_concat rest with rfl | ⟨rest, step, rfl⟩
  · exact absurd rfl some_name
  rw [List.concat_eq_append] at split down ⊢
  rw [steps, ← List.append_assoc] at split
  obtain ⟨split, e⟩ := List.append_inj' split rfl
  rw [← List.singleton_inj.1 e] at down ⊢
  refine ⟨rest.filter (· ≠ "."), last, ?_, ?_⟩
  · rw [List.filter_append, List.filter_cons_of_pos (by simpa using getLast_steps trim steps),
      List.filter_nil]
  -- The dots that are skipped may belong to the first steps, which then still lead to the root.
  rcases List.append_eq_append_iff.1 split with ⟨more, rfl, rfl⟩ | ⟨more, above_eq, rfl⟩
  · rw [List.filter_append, List.append_eq_nil_iff] at skipped
    rw [List.foldlM_append] at reached
    refine ⟨above.steps, [], (List.append_nil _).symm, ?_, nofun, skipped.2.symm⟩
    cases found : above.steps.foldlM t.enter [] with
    | error fault =>
      rw [found, error_bind] at reached
      cases reached
    | ok k =>
      rw [found, ok_bind] at reached
      rw [foldlM_idle (fun step hs => idle step (List.mem_append_left _ hs)) reached]
  · refine ⟨front, more, above_eq, reached, fun hm => down (by simp [hm]), ?_⟩
    rw [List.filter_append, skipped, List.append_nil]

/-! ## Directories on the way -/

/-- `t'` is `t` with directories all the way down the names. -/
def Lays (t t' : Tree) (root : Location) (names : List String) : Prop :=
  ∀ l, t'.node? l = if OnWay root names l then some .directory else t.node? l

theorem Paved.lays (h : t.Paved root names) : t.Lays t root names := by
  intro l
  split
  · next way => exact h l way
  · rfl

theorem Lays.paved (h : t.Lays t' root names) : t'.Paved root names := by
  intro l way
  rw [h l, if_pos way]

theorem Lays.further {t'' : Tree} {names' : List String} (h : t.Lays t' root names)
    (h' : t'.Lays t'' root names') (longer : names <+: names') : t.Lays t'' root names' := by
  intro l
  rw [h' l]
  split
  · rfl
  · next off => rw [h l, if_neg fun way => off (way.mono longer)]

/-- Directories are not in the way. -/
theorem Lays.clear {names' : List String} (h : t.Lays t' root names')
    (clear : t.Clear root names) : t'.Clear root names where
  ground := by
    rw [h root, if_pos onWay_root]
  files l text way := by
    rw [h l]
    split
    · nofun
    · exact clear.files l text way

/-- The last directory is put down when those before it are there. -/
theorem lays_put (paved : t.Paved root names.dropLast) (free : t.node? (root ++ names) = none) :
    t.Lays (t.put (root ++ names) .directory) root names := by
  intro l
  by_cases last : l = root ++ names
  · rw [last, node?_put_self (ne_nil_of_node? (by rw [free]; nofun)), if_pos (onWay_end ..)]
  rw [node?_put_ne last]
  split
  · next way => exact paved l (way.of_ne last)
  · rfl

theorem longName?_eq_none_iff : longName? names = none ↔ names.all fits := by
  unfold longName?
  split <;> simp [*]

/-- Behind a name that is too long, another name does not matter. -/
theorem longName?_concat {dirs : List String} (long : longName? dirs ≠ none) (file : String) :
    longName? (dirs ++ [file]) = longName? dirs ∧
      (dirs ++ [file]).takeWhile fits = dirs.takeWhile fits := by
  rw [ne_eq, longName?_eq_none_iff] at long
  constructor
  · rw [longName?, longName?, if_neg long, if_neg fun all => long ?_]
    rw [List.all_append, Bool.and_eq_true] at all
    exact all.1
  · rw [List.takeWhile_append, if_neg]
    intro whole
    have all := (List.takeWhile_prefix fits).eq_of_length whole
    exact long (List.all_eq_true.2 (List.takeWhile_eq_self_iff.1 all))

/-- Unless there is a gap, one attempt makes the last directory. -/
theorem ensureDirectory_lays (lead : t.Leads p.steps root names) (clear : t.Clear root names)
    (sound : p.flaw? = none) (no_gap : t.locate p ≠ .error .notFound) :
    (t.ensureDirectory p).2 = longName? names ∧
      t.Lays (t.ensureDirectory p).1 root (names.takeWhile fits) := by
  rw [locate_of_sound sound] at no_gap
  rw [ensureDirectory, locate_of_sound sound]
  have led := lead.led clear
  generalize p.steps.foldlM t.enter [] = outcome at led no_gap ⊢
  cases led with
  | there short paved =>
    rw [longName?, if_pos short, List.takeWhile_eq_self_iff.2 (List.all_eq_true.1 short)]
    simp only
    cases there : t.node? (root ++ names) with
    | none => exact ⟨rfl, lays_put paved there⟩
    | some n =>
      cases n with
      | file text => exact absurd there (clear.files _ text (onWay_end _ _))
      | directory =>
        refine ⟨rfl, Paved.lays fun l way => ?_⟩
        by_cases last : l = root ++ names
        · rw [last, there]
        · exact paved l (way.of_ne last)
  | long h paved => exact ⟨by simp [longName?, h], paved.lays⟩
  | gap => exact absurd rfl no_gap

section Calm
variable (calm : t.mishaps = [])
include calm

/-- **The climb.** Directories are made down the names up to the first that is too long. -/
theorem makeDirectoriesWithin_lays (lead : t.Leads p.steps root names)
    (clear : t.Clear root names) (shape : p.IsIdle ∨ p.IsTrim)
    (sound : p.components ≠ [] → p.flaw? = none) (enough : p.text.length < bound)
    (h : t.makeDirectoriesWithin bound p = (t', failed)) :
    failed = longName? names ∧ t.Lays t' root (names.takeWhile fits) := by
  induction bound generalizing p names t' failed with
  | zero => omega
  | succ bound ih =>
    rcases shape with idle | trim
    · rw [makeDirectoriesWithin_of_isIdle calm idle, Prod.mk.injEq] at h
      obtain ⟨rfl, rfl⟩ := h
      rw [lead.names_of_isIdle idle]
      refine ⟨?_, (paved_nil clear.ground).lays⟩
      split
      · rfl
      · next some_component => exact sound some_component
    have some_component := trim.components_ne_nil
    replace sound := sound some_component
    by_cases gap : t.locate p = .error .notFound
    · obtain ⟨above, up, way⟩ := trim.parent?
      have shorter := way.length_lt
      have some_name : names ≠ [] := by
        have led := lead.led clear
        rw [← locate_of_sound sound, gap] at led
        cases led with
        | gap h => exact h
      obtain ⟨dirs, file, rfl, lead'⟩ := lead.up some_name way trim
      have sound' : above.components ≠ [] → above.flaw? = none := fun h =>
        way.flaw? sound fun e => h (Path.components_of_empty e)
      rw [makeDirectoriesWithin_of_eq calm some_component gap up] at h
      cases hm : t.makeDirectoriesWithin bound above with
      | mk t₁ failed₁ =>
        obtain ⟨fault, laid⟩ :=
          ih lead' (clear.mono (List.prefix_append _ _)) way.shape sound' (by omega) hm
        rw [hm] at h
        cases failed₁ with
        | some fault₁ =>
          cases h
          obtain ⟨same, same'⟩ := longName?_concat (by rw [← fault]; nofun) file
          rw [same, same']
          exact ⟨fault, laid⟩
        | none =>
          simp only at h
          have later : t₁.mishaps = [] := by
            have quiet := makeDirectoriesWithin_calm calm bound above
            rwa [hm] at quiet
          have grown : t.Grows t₁ := by
            have g := makeDirectoriesWithin_grows t bound above
            rwa [hm] at g
          have opened := opens_of_climb calm way.shape hm
          have made := ensureDirectory_lays (lead.grows grown) (laid.clear clear) sound
            (opened.locate_ne_notFound way)
          rw [h] at made
          refine ⟨made.1, laid.further made.2 ?_⟩
          have short := List.all_eq_true.1 (longName?_eq_none_iff.1 fault.symm)
          rw [List.takeWhile_append_of_pos short, List.takeWhile_eq_self_iff.2 short]
          exact List.prefix_append _ _
    · rw [makeDirectoriesWithin_of_ne calm some_component gap] at h
      have made := ensureDirectory_lays lead clear sound gap
      rw [h] at made
      exact made

/-- The directories for a path, and the fault met on the way, can be told from the path. -/
theorem makeDirectories_lays (lead : t.Leads p.steps root names) (clear : t.Clear root names)
    (shape : p.IsIdle ∨ p.IsTrim) :
    (t.makeDirectories p).2 = p.obstacle? names ∧
      t.Lays (t.makeDirectories p).1 root (p.paved names) := by
  unfold makeDirectories Path.obstacle? Path.paved
  rcases shape with idle | trim
  · obtain rfl := lead.names_of_isIdle idle
    have no_name : longName? [] = none := rfl
    rw [makeDirectoriesWithin_of_isIdle calm idle, no_name, Option.or_none, List.takeWhile_nil,
      ite_self]
    exact ⟨rfl, (paved_nil clear.ground).lays⟩
  · have some_component := trim.components_ne_nil
    rw [if_neg some_component]
    cases hf : p.flaw? with
    | none =>
      rw [Option.none_or, if_pos rfl]
      exact makeDirectoriesWithin_lays calm lead clear (.inr trim) (fun _ => hf)
        (Nat.lt_add_of_pos_right (by decide)) rfl
    | some fault =>
      have stuck := locate_of_flaw (t := t) hf
      have no_gap : t.locate p ≠ .error .notFound := by
        rw [stuck]
        rintro ⟨⟩
        exact Path.flaw?_ne_notFound trim.text_ne_empty hf
      rw [makeDirectoriesWithin_of_ne calm some_component no_gap, ensureDirectory, stuck,
        Option.some_or, if_neg (Option.some_ne_none fault)]
      exact ⟨rfl, (paved_nil clear.ground).lays⟩

end Calm

theorem wantsDirectory_of_isTrim (trim : p.IsTrim) : wantsDirectory p = false := by
  obtain ⟨front, last, pieces, busy⟩ := trim
  rw [wantsDirectory, decide_eq_false_iff_not]
  intro slash
  obtain ⟨before, -, pieces'⟩ := Path.pieces_of_slash slash
  obtain ⟨-, e⟩ := List.append_inj' (pieces.symm.trans pieces') rfl
  rw [List.singleton_inj.1 e] at busy
  cases busy

/-! ## The file at the end -/

/-- What keeps a file from being written, when the directories for it are there. -/
theorem write_lays (text : String) (trim : p.IsTrim) (lead : t.Leads p.steps root names)
    (clear : t.Clear root names) (no_gap : t.locate p ≠ .error .notFound) :
    t.write p text =
      match p.fault? names (t.node? (root ++ names) = some .directory) with
      | some fault => .error fault
      | none => .ok (t.put (root ++ names) (.file text)) := by
  rw [write, wantsDirectory_of_isTrim trim, Path.fault?]
  cases hf : p.flaw? with
  | some fault => rw [locate_of_flaw hf, error_bind, Option.some_or]
  | none =>
    rw [locate_of_sound hf] at no_gap ⊢
    have led := lead.led clear
    generalize p.steps.foldlM t.enter [] = outcome at led no_gap ⊢
    cases led with
    | there short paved =>
      have no_fault : longName? names = none := longName?_eq_none_iff.2 short
      rw [ok_bind, if_neg Bool.false_ne_true, no_fault, Option.none_or, Option.none_or]
      cases there : t.node? (root ++ names) with
      | none => simp
      | some n => cases n <;> simp
    | long h paved => simp [longName?, h, error_bind]
    | gap => exact absurd rfl no_gap

end Tree

end Storage

/-! ## A whole write -/

open Storage Storage.Tree

variable {t : Tree} {p : Storage.Path} {root : Location} {names : List String}

/-- What a write down some names meets. -/
def refusal? (p : Storage.Path) (names : List String) (occupied : Bool) : Option OutputError :=
  p.parent?.bind fun above =>
    match above.obstacle? names.dropLast with
    | some fault => some (.storage above fault)
    | none => (p.fault? names occupied).map (.storage p)

/-- The names down which a write makes directories. -/
def pavedFor (p : Storage.Path) (names : List String) : List String :=
  (p.parent?.map fun above => above.paved names.dropLast).getD []

/-- **The write.** What it meets and what it lays down can be told from the path, once it is known
whether a directory stands where the file should go. -/
theorem writeFile_lays (calm : t.mishaps = []) (trim : p.IsTrim)
    (lead : t.Leads p.steps root names) (clear : t.Clear root names) (some_name : names ≠ [])
    (text : String) :
    let refused := refusal? p names (t.node? (root ++ names) = some .directory)
    (writeFile t p text).2 = refused ∧ ∀ l, (writeFile t p text).1.node? l =
      if refused = none ∧ l = root ++ names then some (.file text)
      else if OnWay root (pavedFor p names) l then some .directory
      else t.node? l := by
  obtain ⟨above, up, way⟩ := trim.parent?
  obtain ⟨dirs, file, rfl, lead'⟩ := lead.up some_name way trim
  have made := makeDirectories_lays calm lead' (clear.mono (List.prefix_append _ _)) way.shape
  rw [writeFile_eq calm up, refusal?, pavedFor, up, Option.bind_some, Option.map_some,
    Option.getD_some, List.dropLast_concat]
  cases hm : t.makeDirectories above with
  | mk t₁ failed =>
    rw [hm] at made
    obtain ⟨rfl, laid⟩ := made
    cases obstacle : above.obstacle? dirs with
    | some fault => exact ⟨rfl, fun l => by simpa using laid l⟩
    | none =>
      have opened : t₁.Opens above := opens_of_climb calm way.shape (hm.trans (by rw [obstacle]))
      have grown : t.Grows t₁ := by
        have g := makeDirectoriesWithin_grows t (above.text.length + 2) above
        rwa [← makeDirectories, hm] at g
      have wrote := write_lays text trim (lead.grows grown) (laid.clear clear)
        (opened.locate_ne_notFound way)
      have off : ¬ OnWay root (above.paved dirs) (root ++ (dirs ++ [file])) := fun on => by
        have short := (on.mono (above.prefix_paved dirs)).2.length_le
        simp only [List.length_append, List.length_singleton] at short
        omega
      rw [laid, if_neg off] at wrote
      simp only [wrote]
      cases fault : p.fault? (dirs ++ [file])
        (t.node? (root ++ (dirs ++ [file])) = some .directory) with
      | some fault => exact ⟨rfl, fun l => by simpa using laid l⟩
      | none =>
        have below : root ++ (dirs ++ [file]) ≠ [] := by simp
        refine ⟨rfl, fun l => ?_⟩
        by_cases last : l = root ++ (dirs ++ [file])
        · rw [last, node?_put_self below]
          simp
        · simp [node?_put_ne last, last, laid l]

end Concretize
