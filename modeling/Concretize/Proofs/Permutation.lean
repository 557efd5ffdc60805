import Concretize.Proofs.Accounts
import Concretize.Proofs.Laying

/-!
# Declarations in another order

A generation writes into an empty directory, and no output stands in the way of another. Then every
offer is answered as its own path demands, so it does not matter in which order the declarations
come.

* `Segment.status_eq`: the status of a declaration whose offers are answered by a function is a
  function of the declaration (`Settings.entry`).
* `output_laid`: a pass lays down its offers, and reports these entries.
* `Storage.Tree.Laid.unique`: the same offers leave the same storage, in whatever order.
* `generate_permuted`: two generations from permuted declarations leave the same files and tell the
  same of every declaration.
-/
namespace Concretize

open Storage (Location OnWay)

variable {s : Settings} {layout : Layout} {out : Storage.Path} {t t' : Storage.Tree}
  {a b : Offer} {offered : List Offer} {o o' : Output} {l : Location}

/-! ## A whole pass -/

/-- Every offer of the calls is answered by the function. -/
def AnsweredBy (answer : Offer → Option GenerationError) (cs : List Call) : Prop :=
  ∀ a refusal, .offer a refusal ∈ cs → refusal = answer a

/-- The calls for offers of `d` that are answered by a function. -/
def Declaration.calls (d : Declaration) (answer : Offer → Option GenerationError)
    (offers : List Offer) : List Call :=
  offers.flatMap fun a =>
    .offer a (answer a) :: (answer a).toList.map fun x => .report (.ofError d x)

theorem Answered.eq_calls {d : Declaration} {answer : Offer → Option GenerationError}
    {offers : List Offer} {cs : List Call} (h : Answered d offers cs)
    (by_answer : AnsweredBy answer cs) : cs = d.calls answer offers := by
  induction h with
  | nil => rfl
  | accepted a h ih =>
    have first := by_answer a none List.mem_cons_self
    rw [ih fun b refusal hb => by_answer b refusal (List.mem_cons_of_mem _ hb)]
    simp [Declaration.calls, ← first]
  | refused a x h ih =>
    have first := by_answer a (some x) List.mem_cons_self
    rw [ih fun b refusal hb => by_answer b refusal (by simp [hb])]
    simp [Declaration.calls, ← first]

/-- What is reported of a declaration whose offers are answered by a function. -/
def Settings.entry (s : Settings) (answer : Offer → Option GenerationError) (d : Declaration) :
    ReportEntry where
  declaration := d.name
  status := (s.process d).status d (d.calls answer ((s.process d).offers d))

theorem Segment.status_eq {d : Declaration} {answer : Offer → Option GenerationError}
    {cs : List Call} (h : Segment d (s.process d) cs) (by_answer : AnsweredBy answer cs) :
    ⟨d.name, (s.process d).status d cs⟩ = s.entry answer d := by
  rw [Settings.entry]
  generalize s.process d = outcome at h ⊢
  cases h with
  | skipped => rfl
  | failed x => rfl
  | generated h => rw [h.eq_calls by_answer]

theorem entries_eq {ds : List Declaration} {answer : Offer → Option GenerationError}
    {segments : List (List Call)}
    (h : List.Forall₂ (fun d cs => Segment d (s.process d) cs) ds segments)
    (by_answer : AnsweredBy answer segments.flatten) :
    List.zipWith (fun d cs => ⟨d.name, (s.process d).status d cs⟩) ds segments =
      ds.map (s.entry answer) := by
  induction h with
  | nil => rfl
  | cons first _ ih =>
    rw [List.flatten_cons] at by_answer
    rw [List.zipWith_cons_cons, List.map_cons,
      first.status_eq fun a refusal ha => by_answer a refusal (List.mem_append_left _ ha),
      ih fun a refusal ha => by_answer a refusal (List.mem_append_right _ ha)]

theorem Output.Laid.replays {cs : List Call} (laid : o.Laid t out layout offered)
    (empty : t.EmptyAt out) (hl : layout.IsNormal)
    (names : ∀ a ∈ offered ++ cs.filterMap Call.offer?, a.name.SlashFree)
    (apart : (offered ++ cs.filterMap Call.offer?).Pairwise (Offer.Apart layout))
    (hr : Replays o cs o') :
    o'.Laid t out layout (offered ++ cs.filterMap Call.offer?) ∧
      AnsweredBy (Offer.answer out layout) cs := by
  induction hr generalizing offered with
  | nil o =>
    rw [List.filterMap_nil, List.append_nil]
    exact ⟨laid, fun _ _ h => absurd h List.not_mem_nil⟩
  | @offer o o' cs a _ ih =>
    have split : offered ++ List.filterMap Call.offer? (.offer a (a.make o).1.refusal :: cs) =
        offered ++ [a] ++ cs.filterMap Call.offer? := by simp [Call.offer?]
    rw [split] at names apart ⊢
    have first := laid.make empty hl (fun b hb => names b (List.mem_append_left _ hb))
      fun b hb => (List.pairwise_append.1 (List.pairwise_append.1 apart).1).2.2 b hb a (by simp)
    obtain ⟨laid', others⟩ := ih first.2 names apart
    refine ⟨laid', fun b refusal hb => ?_⟩
    rcases List.mem_cons.1 hb with e | hb
    · cases e
      exact first.1
    · exact others b refusal hb
  | report x _ ih =>
    obtain ⟨laid', others⟩ :=
      ih ⟨laid.root, laid.format, laid.storage, laid.records, laid.sorted⟩ names apart
    refine ⟨laid', fun b refusal hb => ?_⟩
    exact others b refusal ((List.mem_cons.1 hb).resolve_left fun e => by cases e)

theorem Output.Laid.start (calm : t.mishaps = []) :
    (s.emptyOutput out t).Laid t out s.layout [] where
  root := rfl
  format := rfl
  storage := .start calm
  records := .refl _
  sorted := .nil

section Pass
variable {ds : List Declaration} (calm : t.mishaps = []) (empty : t.EmptyAt out)
  (hl : s.layout.IsNormal) (names : ∀ d ∈ ds, d.SlashFree)
  (apart : (s.offers ds).Pairwise (Offer.Apart s.layout))
include calm empty hl names apart

/-- A pass lays down all its offers and reports on every declaration what its paths demand. -/
theorem output_laid :
    (s.output ds out t).Laid t out s.layout (s.offers ds) ∧
      (s.run ds (s.emptyOutput out t)).value =
        ⟨ds.map (s.entry (Offer.answer out s.layout))⟩ := by
  obtain ⟨emitter, value⟩ := run_eq s ds (s.emptyOutput out t)
  obtain ⟨segments, segment, made, entries⟩ := emitOutcomes_accounts s ds (s.emptyOutput out t)
  have offered := segments_offers segment
  have start : (s.emptyOutput out t).Laid t out s.layout [] := .start calm
  have replayed := start.replays empty hl
    (by rw [offered]; exact slashFree_offers names) (by rw [offered]; exact apart) made.replays
  rw [offered] at replayed
  obtain ⟨laid, by_answer⟩ := replayed
  rw [Settings.output, emitter, value, entries, entries_eq segment by_answer]
  exact ⟨laid, rfl⟩

end Pass

/-! ## The record of dependencies -/

theorem Output.Laid.record (laid : o.Laid t out layout offered) (empty : t.EmptyAt out)
    (hl : layout.IsNormal) (names : ∀ a ∈ offered, a.name.SlashFree) :
    let occupied := o.storage.node? (out.target ++ [dependenciesName]) = some .directory
    let refused := refusal? (out.push dependenciesName) [dependenciesName] occupied
    (o.writeDependencies (out.push dependenciesName)).2 = refused ∧
      ∀ l, (o.writeDependencies (out.push dependenciesName)).1.storage.node? l =
        if refused = none ∧ l = out.target ++ [dependenciesName] then
          some (.file o.dependencies.pretty)
        else if OnWay out.target (pavedFor (out.push dependenciesName) [dependenciesName]) l then
          some .directory
        else o.storage.node? l := by
  have lead := laid.storage.leads empty (p := ⟨dependenciesName⟩) (by decide)
  have record : (⟨dependenciesName⟩ : Storage.Path).names = [dependenciesName] := by decide
  have free : ∀ a ∈ offered, ¬ a.names layout <+: [dependenciesName] := by
    intro a ha below
    obtain ⟨-, directories, split⟩ := Offer.isNormal_path hl (names a ha)
    rw [Offer.names, split] at below
    have e := below.eq_of_length_le (by simp)
    rw [List.append_eq_singleton_iff] at e
    rcases e with ⟨-, e⟩ | ⟨-, e⟩
    · exact fileName_ne a (List.singleton_inj.1 e)
    · cases e
  rw [record] at lead
  have lays := writeFile_lays laid.storage.calm (isTrim_dependencies out) lead
    (laid.storage.clear empty free) (List.cons_ne_nil _ _) o.dependencies.pretty
  rw [(writeDependencies_eq o _).1, (writeDependencies_eq o _).2]
  exact lays

/-! ## Two generations -/

section Both
variable {offered' : List Offer} {g g' : Storage.Tree}
  (laid : t.Laid out layout offered g) (laid' : t'.Laid out layout offered' g')
  (empty : t.EmptyAt out) (empty' : t'.EmptyAt out) (same : ∀ a, a ∈ offered ↔ a ∈ offered')

theorem Storage.Tree.Laid.outside (laid : t.Laid out layout offered g)
    (off : ¬ out.target <+: l) : g.node? l = t.node? l := by
  refine laid.rest l (fun a _ _ e => off ?_) fun a _ way => off way.1
  rw [e]
  exact List.prefix_append _ _

include laid laid' empty empty' same

/-- The same offers lay down the same, in whatever order. -/
theorem Storage.Tree.Laid.unique (below : out.target <+: l) : g.node? l = g'.node? l := by
  rcases laid.cases l with ⟨a, ha, accepted, rfl, file⟩ | ⟨a, ha, way, directory⟩ | before
  · rw [file, laid'.files a ((same a).1 ha) accepted]
  · rw [directory, laid'.directories a ((same a).1 ha) l way]
  rcases laid'.cases l with ⟨a, ha, accepted, rfl, file⟩ | ⟨a, ha, way, directory⟩ | before'
  · rw [file, laid.files a ((same a).2 ha) accepted]
  · rw [directory, laid.directories a ((same a).2 ha) l way]
  rw [before, before']
  by_cases root : l = out.target
  · rw [root, empty.ground, empty'.ground]
  · rw [empty.empty l below root, empty'.empty l below root]

end Both

theorem Offer.Apart.symm (apart : a.Apart layout b) : b.Apart layout a := ⟨apart.2, apart.1⟩

/-- **Order.** Two generations whose declarations are the same but for their order write into empty
directories, and no path of an output is the beginning of another. Then they leave the same in the
output directory and nothing new outside of it. Either both fail to write the record of
dependencies, with the same error, or they tell the same of every declaration and their records have
the same text. -/
theorem generate_permuted (s : Settings) {manifest manifest' : Storage.Path} {m m' : Manifest}
    (hl : s.layout.IsNormal) (calm : t.mishaps = []) (calm' : t'.mishaps = [])
    (empty : t.EmptyAt out) (empty' : t'.EmptyAt out)
    (loaded : Manifest.fromFile t manifest = .ok m)
    (loaded' : Manifest.fromFile t' manifest' = .ok m')
    (perm : m'.declarations.Perm m.declarations) (names : ∀ d ∈ m.declarations, d.SlashFree)
    (apart : (s.offers m.declarations).Pairwise (Offer.Apart s.layout)) :
    let r := s.generate manifest out t
    let r' := s.generate manifest' out t'
    (∀ l, out.target <+: l → r'.storage.node? l = r.storage.node? l) ∧
      (∀ l, ¬ out.target <+: l →
        r.storage.node? l = t.node? l ∧ r'.storage.node? l = t'.node? l) ∧
      ((∃ e, r.outcome = .error (.output e) ∧ r'.outcome = .error (.output e)) ∨
        ∃ entry : Declaration → ReportEntry,
          r.outcome = .ok ⟨m.declarations.map entry⟩ ∧
          r'.outcome = .ok ⟨m'.declarations.map entry⟩ ∧
          ∃ text, r.storage.read (out.push dependenciesName) = .ok text ∧
            r'.storage.read (out.push dependenciesName) = .ok text) := by
  intro r r'
  have offers : (s.offers m'.declarations).Perm (s.offers m.declarations) :=
    perm.flatMap_right _
  have names' : ∀ d ∈ m'.declarations, d.SlashFree := fun d hd => names d (perm.mem_iff.1 hd)
  have apart' := offers.symm.pairwise apart Offer.Apart.symm
  obtain ⟨laid, value⟩ := output_laid calm empty hl names apart
  obtain ⟨laid', value'⟩ := output_laid calm' empty' hl names' apart'
  have below {l : Location} (h : out.target <+: l) :=
    laid'.storage.unique laid.storage empty' empty (fun _ => offers.mem_iff) h
  have records : (s.output m.declarations out t).records =
      (s.output m'.declarations out t').records :=
    records_unique laid.sorted laid'.sorted
      (laid.records.trans (((offers.symm.filter _).map _).trans laid'.records.symm))
  have text : (s.output m'.declarations out t').dependencies =
      (s.output m.declarations out t).dependencies := by
    rw [Output.dependencies, Output.dependencies, records]
  obtain ⟨storage, outcome⟩ := generate_of_fromFile_eq_ok (s := s) out loaded
  obtain ⟨storage', outcome'⟩ := generate_of_fromFile_eq_ok (s := s) out loaded'
  obtain ⟨met, nodes⟩ := laid.record empty hl (slashFree_offers names)
  obtain ⟨met', nodes'⟩ := laid'.record empty' hl (slashFree_offers names')
  rw [below (List.prefix_append _ _)] at met' nodes'
  rw [text] at nodes'
  simp only [r, r', storage, storage', outcome, outcome', value, value']
  refine ⟨fun l h => ?_, fun l h => ⟨?_, ?_⟩, ?_⟩
  · rw [nodes, nodes', below h]
  · rw [nodes, if_neg, if_neg, laid.storage.outside h]
    · exact fun way => h way.1
    · exact fun e => h (e.2 ▸ List.prefix_append _ _)
  · rw [nodes', if_neg, if_neg, laid'.storage.outside h]
    · exact fun way => h way.1
    · exact fun e => h (e.2 ▸ List.prefix_append _ _)
  · cases refused : ((s.output m.declarations out t).writeDependencies
        (out.push dependenciesName)).2 with
    | some e =>
      rw [met', ← met, refused]
      exact .inl ⟨e, rfl, rfl⟩
    | none =>
      have read' := read_writeDependencies (met'.trans (met.symm.trans refused))
      rw [text] at read'
      rw [met', ← met, refused]
      exact .inr ⟨_, rfl, rfl, _, read_writeDependencies refused, read'⟩

theorem Storage.Tree.emptyAt_of_nodes {nodes : List (Location × Storage.Node)}
    (leads : out.steps.foldlM ({ nodes } : Storage.Tree).enter [] = .ok out.target)
    (ground : ({ nodes } : Storage.Tree).node? out.target = some .directory)
    (only : ∀ node ∈ nodes, out.target <+: node.1 → node.1 = out.target) :
    ({ nodes } : Storage.Tree).EmptyAt out := by
  refine ⟨leads, ground, fun l below other => ?_⟩
  have down : l ≠ [] := by
    rintro rfl
    exact other (List.prefix_nil.1 below).symm
  rw [node?, if_neg down]
  cases found : nodes.lookup l with
  | none => rfl
  | some n =>
    obtain ⟨before, after, split, -⟩ := List.lookup_eq_some_iff.1 found
    exact absurd (only (l, n) (by simp [split]) below) other

/-- Two declarations, each with an output of its own. -/
def shelf : List Declaration :=
  [{ name := ⟨"app.Load"⟩
     kind := .interface
     modifiers := [.isSealed]
     variants := [{ name := "Done", kind := .object }]
     models := some [{ type := { path := ⟨"app.User"⟩ } }] },
   { name := ⟨"app.Play"⟩
     kind := .klass
     modifiers := [.isSealed]
     variants := [{ name := "Stopped", kind := .object }]
     models := some [{ type := { path := ⟨"app.Song"⟩ } }] }]

/-- Storage with a manifest of the declarations and an empty directory. -/
def shelfStorage (ds : List Declaration) : Storage.Tree where
  nodes := [(["load.json"], .file (⟨ds⟩ : Manifest).write), (["out"], .directory)]

theorem shelf_permuted :
    let r := lax.generate ⟨"load.json"⟩ ⟨"out"⟩ (shelfStorage shelf)
    let r' := lax.generate ⟨"load.json"⟩ ⟨"out"⟩ (shelfStorage shelf.reverse)
    (lax.offers shelf).length = 4 ∧
      ∀ l, (⟨"out"⟩ : Storage.Path).target <+: l →
        r'.storage.node? l = r.storage.node? l := by
  have apart : ¬ (⟨"out"⟩ : Storage.Path).target <+: ["load.json"] := by decide
  have empty (ds : List Declaration) : (shelfStorage ds).EmptyAt ⟨"out"⟩ := by
    refine Storage.Tree.emptyAt_of_nodes rfl rfl fun node hn below => ?_
    rcases List.mem_cons.1 hn with rfl | hn
    · exact absurd below apart
    · rw [List.mem_singleton.1 hn]
      rfl
  have loaded : Manifest.fromFile (shelfStorage shelf) ⟨"load.json"⟩ = .ok ⟨shelf⟩ :=
    fromFile_eq_ok rfl ((Json.decodeAll_pretty (recovers_manifest ⟨shelf⟩)).trans
      (if_pos (by decide)))
  have loaded' : Manifest.fromFile (shelfStorage shelf.reverse) ⟨"load.json"⟩ =
      .ok ⟨shelf.reverse⟩ :=
    fromFile_eq_ok rfl ((Json.decodeAll_pretty (recovers_manifest ⟨shelf.reverse⟩)).trans
      (if_pos (by decide)))
  have names : ∀ d ∈ shelf, d.SlashFree := by
    unfold Declaration.SlashFree QualifiedName.SlashFree
    decide
  have same := generate_permuted lax (by decide) rfl rfl (empty _) (empty _) loaded loaded'
    (List.reverse_perm _) names (by decide +kernel)
  exact ⟨by decide +kernel, same.1⟩

end Concretize
