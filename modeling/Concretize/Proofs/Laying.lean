import Concretize.Proofs.Paving
import Concretize.Proofs.Repetition
import Mathlib.Data.List.Lex
import Mathlib.Data.String.Basic

/-!
# What offers lay down

Offers are made to an output whose root leads to an empty directory, and no output stands in the way
of another: no path is the beginning of another one. Here storage is calm.

* `records_unique`: records in path order are determined by what they are.
* `Storage.Tree.Laid`, `Output.Laid`: what storage and an output look like after some offers, in
  terms that know no order.
* `Storage.Tree.Laid.write`: one more write adds what is its own and takes nothing away.
* `Output.Laid.make`: an offer is answered as its path demands (`Offer.refusal?`), whatever else was
  offered.
-/
namespace Concretize

open Storage (Location OnWay)
open Storage.Tree (Leads Clear)

variable {s : Settings} {layout : Layout} {out : Storage.Path} {t t' : Storage.Tree}
  {a b : Offer} {offered : List Offer} {o o' : Output} {l : Location}

/-! ## Records in order -/

theorem componentsBefore_iff {xs ys : List String} :
    Storage.componentsBefore (xs.map .normal) (ys.map .normal) = true ↔ xs < ys := by
  induction xs generalizing ys with
  | nil =>
    cases ys with
    | nil => simp [Storage.componentsBefore]
    | cons y ys => simp [Storage.componentsBefore]
  | cons x xs ih =>
    cases ys with
    | nil => simp [Storage.componentsBefore]
    | cons y ys =>
      simp [Storage.componentsBefore, Storage.Component.before, List.cons_lt_cons_iff, ih]

theorem before_iff_names {p q : Storage.Path} (hp : p.IsNormal) (hq : q.IsNormal) :
    p.before q = true ↔ p.names < q.names := by
  rw [Storage.Path.before, hp.components_eq, hq.components_eq, componentsBefore_iff]

/-- Records in the order of their names. -/
def InOrder (records : List OutputRecord) : Prop :=
  records.Pairwise fun r r' => r.path.names < r'.path.names

theorem records_unique {records records' : List OutputRecord} (h : InOrder records)
    (h' : InOrder records') (perm : records.Perm records') : records = records' :=
  perm.eq_of_pairwise (fun _ _ _ _ lt gt => absurd gt (lt_asymm lt)) h h'

/-- A new record goes where the order wants it. -/
theorem inOrder_insertRecord {r : OutputRecord} {records : List OutputRecord} (h : InOrder records)
    (normal : ∀ r' ∈ r :: records, r'.path.IsNormal)
    (new : ∀ r' ∈ records, r'.path.names ≠ r.path.names) : InOrder (insertRecord r records) := by
  induction records with
  | nil => exact List.pairwise_singleton _ _
  | cons first rest ih =>
    obtain ⟨least, sorted⟩ := List.pairwise_cons.1 h
    have before := before_iff_names (normal r (by simp)) (normal first (by simp))
    rw [insertRecord]
    split
    · next lt =>
      rw [before] at lt
      refine List.pairwise_cons.2 ⟨fun r' hr => ?_, h⟩
      rcases List.mem_cons.1 hr with rfl | hr
      · exact lt
      · exact lt.trans (least r' hr)
    · next not_lt =>
      rw [before] at not_lt
      have after : first.path.names < r.path.names :=
        lt_of_le_of_ne (le_of_not_gt not_lt) (new first List.mem_cons_self)
      have normal' : ∀ r' ∈ r :: rest, r'.path.IsNormal := fun r' hr =>
        normal r' (List.cons_subset_cons r (List.subset_cons_self first rest) hr)
      have others := ih sorted normal' fun r' hr => new r' (List.mem_cons_of_mem _ hr)
      refine List.pairwise_cons.2 ⟨fun r' hr => ?_, others⟩
      rcases List.mem_cons.1 ((insertRecord_perm r rest).mem_iff.1 hr) with rfl | hr
      · exact after
      · exact least r' hr

/-! ## What an offer leads to -/

/-- The path leads to a directory with nothing in it. -/
structure Storage.Tree.EmptyAt (t : Storage.Tree) (out : Storage.Path) : Prop where
  leads : out.steps.foldlM t.enter [] = .ok out.target
  ground : t.node? out.target = some .directory
  empty : ∀ l, out.target <+: l → l ≠ out.target → t.node? l = none

namespace Offer

/-- The names down which an offer goes. -/
def names (layout : Layout) (a : Offer) : List String := (a.path layout).names

/-- Neither path is the beginning of the other. -/
def Apart (layout : Layout) (a b : Offer) : Prop :=
  ¬ (a.path layout).components <+: (b.path layout).components ∧
    ¬ (b.path layout).components <+: (a.path layout).components

instance (layout : Layout) (a b : Offer) : Decidable (a.Apart layout b) :=
  inferInstanceAs (Decidable (¬ _ ∧ ¬ _))

/-- What the write of an offer meets when nothing is in its way. -/
def refusal? (out : Storage.Path) (layout : Layout) (a : Offer) : Option OutputError :=
  Concretize.refusal? (out.join (a.path layout)) (a.names layout) false

/-- How an offer is answered when nothing is in its way. -/
def answer (out : Storage.Path) (layout : Layout) (a : Offer) : Option GenerationError :=
  (a.refusal? out layout).map OutputError.toGenerationError

/-- The names down which directories are made for an offer. -/
def paved (out : Storage.Path) (layout : Layout) (a : Offer) : List String :=
  pavedFor (out.join (a.path layout)) (a.names layout)

/-- Where the file of an offer goes. -/
def place (out : Storage.Path) (layout : Layout) (a : Offer) : Location :=
  out.target ++ a.names layout

variable (hl : layout.IsNormal)
include hl

theorem names_ne_nil (ha : a.name.SlashFree) : a.names layout ≠ [] := by
  obtain ⟨-, directories, names⟩ := isNormal_path hl ha
  simp [Offer.names, names]

theorem prefix_components (ha : a.name.SlashFree) (hb : b.name.SlashFree)
    (h : a.names layout <+: b.names layout) :
    (a.path layout).components <+: (b.path layout).components := by
  rw [(isNormal_path hl ha).1.components_eq, (isNormal_path hl hb).1.components_eq]
  exact h.map _

end Offer

theorem prefix_pavedFor (p : Storage.Path) (names : List String) :
    pavedFor p names <+: names.dropLast := by
  unfold pavedFor
  cases p.parent? with
  | none => exact List.nil_prefix
  | some above => exact above.prefix_paved _

namespace Offer

/-- The directories made for an offer are those before the last of its names. -/
theorem prefix_of_onWay {names : List String} (way : OnWay out.target (b.paved out layout)
    (out.target ++ names)) : names <+: (b.names layout).dropLast := by
  obtain ⟨down, below, e⟩ := Storage.onWay_iff.1 way
  rw [List.append_cancel_left e]
  exact below.trans (prefix_pavedFor _ _)

end Offer

/-- Storage after some offers, starting from `t` with an empty directory for them: it holds their
files and the directories for these. Nothing here depends on the order of the offers. -/
structure Storage.Tree.Laid (t : Storage.Tree) (out : Storage.Path) (layout : Layout)
    (offered : List Offer) (t' : Storage.Tree) : Prop where
  calm : t'.mishaps = []
  grown : t.Grows t'
  files : ∀ a ∈ offered, a.refusal? out layout = none →
    t'.node? (a.place out layout) = some (.file (a.text layout))
  directories : ∀ a ∈ offered, ∀ l, OnWay out.target (a.paved out layout) l →
    t'.node? l = some .directory
  rest : ∀ l, (∀ a ∈ offered, a.refusal? out layout = none → l ≠ a.place out layout) →
    (∀ a ∈ offered, ¬ OnWay out.target (a.paved out layout) l) → t'.node? l = t.node? l

namespace Storage.Tree.Laid

variable (laid : t.Laid out layout offered t')

theorem start (calm : t.mishaps = []) : t.Laid out layout [] t where
  calm := calm
  grown := .refl t
  files := nofun
  directories := nofun
  rest _ _ _ := rfl

include laid in
/-- At a place stands the file of an offer, a directory for one, or what stood there before. -/
theorem cases (l : Location) :
    (∃ a ∈ offered, a.refusal? out layout = none ∧ l = a.place out layout ∧
        t'.node? l = some (.file (a.text layout))) ∨
      (∃ a ∈ offered, OnWay out.target (a.paved out layout) l ∧
        t'.node? l = some .directory) ∨
      t'.node? l = t.node? l := by
  by_cases file : ∃ a ∈ offered, a.refusal? out layout = none ∧ l = a.place out layout
  · obtain ⟨a, ha, accepted, rfl⟩ := file
    exact .inl ⟨a, ha, accepted, rfl, laid.files a ha accepted⟩
  by_cases way : ∃ a ∈ offered, OnWay out.target (a.paved out layout) l
  · obtain ⟨a, ha, way⟩ := way
    exact .inr (.inl ⟨a, ha, way, laid.directories a ha l way⟩)
  · refine .inr (.inr (laid.rest l ?_ ?_))
    · exact fun a ha accepted e => file ⟨a, ha, accepted, e⟩
    · exact fun a ha on => way ⟨a, ha, on⟩

section Below
variable (empty : t.EmptyAt out)
include laid empty

theorem ground : t'.node? out.target = some .directory := laid.grown.directory empty.ground

theorem leads {p : Storage.Path} (normal : p.IsNormal) :
    t'.Leads (out.join p).steps out.target p.names := by
  obtain ⟨relative, -, down⟩ := Storage.Path.isNormal_iff.1 normal
  rw [Storage.Path.isAbsolute, decide_eq_false_iff_not] at relative
  have again : out.steps.foldlM t'.enter [] = out.steps.foldlM t.enter [] :=
    foldlM_of_grows laid.grown (by simp [empty.leads])
  exact ⟨out.steps, p.steps, Storage.Path.steps_push out relative, again.trans empty.leads, down,
    rfl⟩

/-- Nothing is in the way down names that no offer stops at. -/
theorem clear {names : List String} (free : ∀ a ∈ offered, ¬ a.names layout <+: names) :
    t'.Clear out.target names where
  ground := laid.ground empty
  files l text way := by
    rcases laid.cases l with ⟨a, ha, -, rfl, -⟩ | ⟨a, ha, -, there⟩ | same
    · exact absurd ((List.prefix_append_right_inj _).1 way.2) (free a ha)
    · rw [there]
      nofun
    · rw [same]
      by_cases root : l = out.target
      · rw [root, empty.ground]
        nofun
      · rw [empty.empty l way.1 root]
        nofun

/-- No directory stands where names end that no offer goes on from. -/
theorem unoccupied {names : List String} (some_name : names ≠ [])
    (free : ∀ a ∈ offered, ¬ names <+: a.names layout) :
    t'.node? (out.target ++ names) ≠ some .directory := by
  rcases laid.cases (out.target ++ names) with ⟨a, ha, -, -, file⟩ | ⟨a, ha, way, -⟩ | same
  · rw [file]
    nofun
  · exact absurd ((Offer.prefix_of_onWay way).trans (List.dropLast_prefix _)) (free a ha)
  · rw [same, empty.empty _ (List.prefix_append _ _) (by simpa using some_name)]
    nofun

variable (hl : layout.IsNormal) (ha : a.name.SlashFree)
  (before : ∀ b ∈ offered, ¬ b.names layout <+: a.names layout)
  (behind : ∀ b ∈ offered, ¬ a.names layout <+: b.names layout)
include hl ha before behind

/-- The next write meets what its path demands, and lays down what is its own. -/
theorem write_eq :
    (writeFile t' (out.join (a.path layout)) (a.text layout)).2 = a.refusal? out layout ∧
      ∀ l, (writeFile t' (out.join (a.path layout)) (a.text layout)).1.node? l =
        if a.refusal? out layout = none ∧ l = a.place out layout then some (.file (a.text layout))
        else if OnWay out.target (a.paved out layout) l then some .directory
        else t'.node? l := by
  have normal := (Offer.isNormal_path hl ha).1
  have some_name := Offer.names_ne_nil hl ha
  have lays := writeFile_lays laid.calm (isTrim_join out layout a) (laid.leads empty normal)
    (laid.clear empty before) some_name (a.text layout)
  have unoccupied := laid.unoccupied empty some_name behind
  rw [Offer.names] at unoccupied
  simp only [unoccupied, decide_false] at lays
  exact lays

/-- So what all offers have laid down is kept, and this one adds its own. -/
theorem write :
    t.Laid out layout (offered ++ [a])
      (writeFile t' (out.join (a.path layout)) (a.text layout)).1 := by
  obtain ⟨-, lays⟩ := laid.write_eq empty hl ha before behind
  have aside {b : Offer} (hb : b ∈ offered ++ [a]) {l : Location}
      (way : OnWay out.target (b.paved out layout) l) : l ≠ a.place out layout := by
    rintro rfl
    have shorter := Offer.prefix_of_onWay way
    rcases List.mem_append.1 hb with hb | hb
    · exact behind b hb (shorter.trans (List.dropLast_prefix _))
    · rw [List.mem_singleton.1 hb] at shorter
      have some_name := List.length_pos_iff.2 (Offer.names_ne_nil hl ha)
      have length := shorter.length_le
      rw [List.length_dropLast] at length
      omega
  refine ⟨writeFile_calm laid.calm _ _, laid.grown.trans (writeFile_grows _ _ _), ?_, ?_, ?_⟩
  · intro b hb accepted
    rw [lays]
    rcases List.mem_append.1 hb with hb | hb
    · have other : b.place out layout ≠ a.place out layout := fun e =>
        before b hb (List.append_cancel_left e ▸ List.prefix_refl _)
      have off : ¬ OnWay out.target (a.paved out layout) (b.place out layout) := fun way =>
        before b hb ((Offer.prefix_of_onWay way).trans (List.dropLast_prefix _))
      rw [if_neg fun h => other h.2, if_neg off, laid.files b hb accepted]
    · rw [List.mem_singleton.1 hb] at accepted ⊢
      rw [if_pos ⟨accepted, rfl⟩]
  · intro b hb l way
    rw [lays, if_neg fun h => aside hb way h.2]
    split
    · rfl
    · next off =>
      rcases List.mem_append.1 hb with hb | hb
      · exact laid.directories b hb l way
      · rw [List.mem_singleton.1 hb] at way
        exact absurd way off
  · intro l files ways
    rw [lays, if_neg, if_neg]
    · exact laid.rest l (fun b hb => files b (List.mem_append_left _ hb))
        fun b hb => ways b (List.mem_append_left _ hb)
    · exact ways a (by simp)
    · exact fun h => files a (by simp) h.1 h.2

end Below

end Storage.Tree.Laid

/-- An output after some offers. -/
structure Output.Laid (o : Output) (t : Storage.Tree) (out : Storage.Path) (layout : Layout)
    (offered : List Offer) : Prop where
  root : o.root = out
  format : o.layout = layout
  storage : t.Laid out layout offered o.storage
  records : o.records.Perm
    ((offered.filter fun a => (a.refusal? out layout).isNone).map (·.record layout))
  sorted : InOrder o.records

theorem Offer.Apart.names (hl : layout.IsNormal) (ha : a.name.SlashFree) (hb : b.name.SlashFree)
    (apart : a.Apart layout b) :
    ¬ a.names layout <+: b.names layout ∧ ¬ b.names layout <+: a.names layout :=
  ⟨fun h => apart.1 (prefix_components hl ha hb h), fun h => apart.2 (prefix_components hl hb ha h)⟩

theorem Offer.Apart.same (apart : a.Apart layout b) :
    (a.path layout).same (b.path layout) = false := by
  rw [Storage.Path.same, decide_eq_false_iff_not]
  exact fun e => apart.1 (e ▸ List.prefix_refl _)

namespace Output.Laid

theorem mem_records (laid : o.Laid t out layout offered) {r : OutputRecord} (hr : r ∈ o.records) :
    ∃ b ∈ offered, b.record layout = r := by
  obtain ⟨b, hb, rfl⟩ := List.mem_map.1 (laid.records.mem_iff.1 hr)
  exact ⟨b, (List.mem_filter.1 hb).1, rfl⟩

/-- An offer whose path is apart from all before is answered as this path demands. -/
theorem make (laid : o.Laid t out layout offered) (empty : t.EmptyAt out) (hl : layout.IsNormal)
    (names : ∀ b ∈ offered ++ [a], b.name.SlashFree) (apart : ∀ b ∈ offered, b.Apart layout a) :
    (a.make o).1.refusal = a.answer out layout ∧
      (a.make o).2.Laid t out layout (offered ++ [a]) := by
  have ha : a.name.SlashFree := names a (by simp)
  have names' : ∀ b ∈ offered, b.name.SlashFree := fun b hb => names b (List.mem_append_left _ hb)
  have before b (hb : b ∈ offered) := ((apart b hb).names hl (names' b hb) ha).1
  have behind b (hb : b ∈ offered) := ((apart b hb).names hl (names' b hb) ha).2
  have free : o.has (a.path o.layout) = false := by
    rw [laid.format, Output.has, List.any_eq_false]
    intro r hr
    obtain ⟨b, hb, rfl⟩ := laid.mem_records hr
    simp [Offer.record, (apart b hb).same]
  obtain ⟨met, -⟩ := laid.storage.write_eq empty hl ha before behind
  have stored := laid.storage.write empty hl ha before behind
  have writes : o.writeOf a = writeFile o.storage (out.join (a.path layout)) (a.text layout) := by
    rw [Output.writeOf, laid.root, laid.format]
  rw [← writes] at met stored
  rcases make_cases a o with ⟨taken, -, -⟩ | ⟨-, e, failed, refused, made⟩ |
    ⟨-, done, refused, made⟩
  · rw [free] at taken
    cases taken
  · rw [failed] at met
    rw [refused, made, Offer.answer, ← met]
    refine ⟨rfl, laid.root, laid.format, stored, ?_, laid.sorted⟩
    simpa [← met] using laid.records
  · rw [done] at met
    rw [refused, made, Offer.answer, ← met]
    refine ⟨rfl, laid.root, laid.format, stored, ?_, ?_⟩
    · rw [laid.format]
      rw [List.filter_append, List.filter_cons_of_pos (by simp [← met]), List.filter_nil,
        List.map_append, List.map_singleton]
      exact (insertRecord_perm _ _).trans
        ((laid.records.cons _).trans (List.perm_append_singleton _ _).symm)
    · rw [laid.format]
      refine inOrder_insertRecord laid.sorted ?_ ?_
      · intro r hr
        rcases List.mem_cons.1 hr with rfl | hr
        · exact (Offer.isNormal_path hl ha).1
        · obtain ⟨b, hb, rfl⟩ := laid.mem_records hr
          exact (Offer.isNormal_path hl (names' b hb)).1
      · intro r hr e
        obtain ⟨b, hb, rfl⟩ := laid.mem_records hr
        have same : b.names layout = a.names layout := e
        exact before b hb (same ▸ List.prefix_refl _)

end Output.Laid

end Concretize
