import Concretize.Generation
import Concretize.Proofs.Dependencies
import Concretize.Proofs.Manifest
import Concretize.Proofs.Naming
import Concretize.Proofs.Outcome
import Concretize.Proofs.Output
import Concretize.Proofs.Report

/-!
# What a generation delivers

From a manifest file to the files below the output directory.

* `run_keeps`: a pass over a fresh output keeps everything it generates, if its report has no
  errors.
* `Output.Keeps.writeDependencies`: the record of dependencies goes to a file of its own, so writing
  it spares all others.
* `generate_delivers`: a report without errors means that nothing was lost. Only the manifest and
  the record of dependencies make a generation fail as a whole.
-/
namespace Concretize

variable {s : Settings} {d : Declaration} {ds : List Declaration}

/-! ## The pass -/

/-- No slash occurs in the names that a declaration gives to its hierarchies: its own, the display
names and the paths of the types. -/
def Declaration.SlashFree (d : Declaration) : Prop :=
  d.name.SlashFree ∧ ∀ r ∈ d.models.getD [], '/' ∉ r.name.toList ∧ r.type.path.SlashFree

/-- All that the declarations give rise to, in order. -/
def Settings.offers (s : Settings) (ds : List Declaration) : List Offer :=
  ds.flatMap fun d => (s.process d).offers d

theorem slashFree_generatedName {b : Binding} (h : d.SlashFree) (hb : b ∈ d.bindings) :
    (d.generatedName b).SlashFree := by
  obtain ⟨r, hr, rfl⟩ := List.mem_map.1 hb
  obtain ⟨display, path⟩ := h.2 r (mem_firstOccurrences.1 hr)
  intro slash
  rcases mem_generatedName slash with hs | ⟨name, hn, hs⟩ | hs | hs
  · exact h.1 hs
  · obtain ⟨hn, -⟩ := Option.filter_eq_some_iff.1 hn
    simp only [ModelRequest.toBinding] at hn
    split at hn
    · cases hn
    · cases hn
      exact display hs
  · exact path hs
  · exact absurd hs (by decide)

theorem slashFree_offers (h : ∀ d ∈ ds, d.SlashFree) : ∀ a ∈ s.offers ds, a.name.SlashFree := by
  intro a ha
  obtain ⟨d, hd, ha⟩ := List.mem_flatMap.1 ha
  cases outcome : s.process d with
  | skipped => rw [outcome] at ha; cases ha
  | failed e => rw [outcome] at ha; cases ha
  | generated g =>
    obtain ⟨-, -, -, -, rfl⟩ := process_eq_generated_iff.1 outcome
    rw [outcome, Outcome.offers, List.mem_append, List.mem_singleton] at ha
    rcases ha with ha | rfl
    · obtain ⟨x, hx, rfl⟩ := List.mem_map.1 ha
      obtain ⟨b, hb, rfl⟩ := List.mem_map.1 hx
      exact slashFree_generatedName (h d hd) hb
    · exact (h d hd).1

section Run
variable {σ : Type} [Emitter σ]

/-- A pass hands every declaration's own outcome to the emitter. -/
theorem run_eq (s : Settings) (ds : List Declaration) (e : σ) :
    (s.run ds e).emitter = (emitOutcomes (ds.map fun d => (d, s.process d)) e).emitter ∧
      (s.run ds e).value = ⟨(emitOutcomes (ds.map fun d => (d, s.process d)) e).value⟩ :=
  (runScheduled_eq (.refl (List.range ds.length))).symm

/-- In a pass without errors, the emitter accepts everything that the declarations give rise to. -/
theorem run_accepts {e : σ} (h : (s.run ds e).value.hasErrors = false) :
    ∃ cs, Replays e cs (s.run ds e).emitter ∧ cs.filterMap Call.offer? = s.offers ds ∧
      cs.filterMap Call.accepted? = s.offers ds := by
  obtain ⟨emitter, value⟩ := run_eq s ds e
  obtain ⟨segments, hs, made⟩ := emitOutcomes_makes (ds.map fun d => (d, s.process d)) e
  rw [List.forall₂_map_left_iff] at hs
  have offered := segments_offers hs
  rw [value] at h
  refine ⟨segments.flatten, emitter ▸ made.replays, offered, ?_⟩
  rw [made.accepted_eq_offers (refusals_eq_zero_of_not_hasErrors h)]
  exact offered

end Run

/-- After a pass without errors, a fresh output keeps everything that was generated. -/
theorem run_keeps {o : Output} (fresh : o.records = []) (hl : o.layout.IsNormal)
    (names : ∀ d ∈ ds, d.SlashFree) (h : (s.run ds o).value.hasErrors = false) :
    (s.run ds o).emitter.Keeps o (s.offers ds) := by
  obtain ⟨cs, replays, offered, accepted⟩ := run_accepts h
  have kept := (Output.Keeps.fresh fresh).replays hl nofun (offered ▸ slashFree_offers names)
    replays
  rw [accepted, List.nil_append] at kept
  exact kept

/-! ## The record of dependencies -/

theorem fileName_ne (a : Offer) : a.fileName ≠ dependenciesName := by
  intro e
  have last := congrArg (fun s : String => s.toList.getLast?) e
  cases a <;> simp [Offer.fileName, keepRulesFileName, dependenciesName, List.getLast?_cons] at last

/-- The record of dependencies is none of the outputs. -/
theorem dependencies_different {layout : Layout} (hl : layout.IsNormal) {a : Offer}
    (ha : a.name.SlashFree) : (a.path layout).same ⟨dependenciesName⟩ = false := by
  obtain ⟨normal, directories, names⟩ := Offer.isNormal_path hl ha
  have record : (⟨dependenciesName⟩ : Storage.Path).names = [dependenciesName] := by decide
  rw [← Bool.not_eq_true, Storage.Path.same_iff_names normal (by decide), names, record]
  intro e
  rw [List.append_eq_singleton_iff] at e
  rcases e with ⟨-, e⟩ | ⟨-, e⟩
  · exact fileName_ne a (List.singleton_inj.1 e)
  · cases e

/-- The key and the value under which the record lists an output. -/
def Offer.entry (layout : Layout) (a : Offer) : Storage.Path × Dependency :=
  (a.path layout, (a.record layout).dependency)

/-- The record of an output that keeps offers lists them, each under a key of its own. -/
theorem Output.Keeps.listed {o start : Output} {kept : List Offer} (h : o.Keeps start kept) :
    ∃ entries, Dependency.readAll o.dependencies.pretty = .ok entries ∧
      entries.Perm (kept.map (Offer.entry start.layout)) ∧
      entries.Pairwise fun e f => e.1.same f.1 = false := by
  have distinct : o.records.Pairwise fun r r' => r.path.same r'.path = false :=
    h.records.symm.pairwise (List.pairwise_map.2 h.distinct) fun different =>
      (same_symm _ _).trans different
  have records := h.records.map fun r => (r.path, r.dependency)
  rw [List.map_map] at records
  obtain ⟨entries, read, perm⟩ := readAll_dependencies distinct
  refine ⟨entries, read, perm.trans records, ?_⟩
  exact perm.symm.pairwise (List.pairwise_map.2 distinct) fun different =>
    (same_symm _ _).trans different

theorem writeDependencies_spares (o : Output) (p : Storage.Path) :
    o.storage.Spares p.target (o.writeDependencies p).1.storage := by
  unfold Output.writeDependencies
  exact writeFile_spares

theorem read_writeDependencies {o : Output} {p : Storage.Path}
    (h : (o.writeDependencies p).2 = none) :
    (o.writeDependencies p).1.storage.read p = .ok o.dependencies.pretty := by
  unfold Output.writeDependencies at h ⊢
  exact read_writeFile h

/-- The record of dependencies stands beside the outputs and takes the place of none. -/
theorem Output.Keeps.writeDependencies {o start : Output} {kept : List Offer}
    (h : o.Keeps start kept) (hl : start.layout.IsNormal)
    (names : ∀ a ∈ kept, a.name.SlashFree) :
    ∀ a ∈ kept, (o.writeDependencies (start.root.push dependenciesName)).1.storage.read
      (start.root.join (a.path start.layout)) = .ok (a.text start.layout) := by
  intro a ha
  have elsewhere : (start.root.join (a.path start.layout)).target ≠
      (start.root.push dependenciesName).target :=
    Storage.Path.target_join_ne start.root (Offer.isNormal_path hl (names a ha)).1 (by decide)
      (dependencies_different hl (names a ha))
  exact Storage.Tree.read_of_spares (writeDependencies_spares o _) elsewhere (h.files a ha)

/-! ## From files to files -/

/-- Everything generated from the declarations stands below `out` as it was rendered, and the record
of dependencies lists these files, each once and with the source of its declaration, and no
others. -/
structure Settings.Delivers (s : Settings) (ds : List Declaration) (out : Storage.Path)
    (t : Storage.Tree) : Prop where
  hierarchies : ∀ d ∈ ds, ∀ g, s.process d = .generated g → ∀ h ∈ g.hierarchies,
    t.read (out.join h.path) = .ok (h.render s.layout)
  keepRules : ∀ d ∈ ds, ∀ g, s.process d = .generated g →
    t.read (out.join ((⟨s.layout.keepRules⟩ : Storage.Path).push (keepRulesFileName d.name))) =
      .ok (renderKeepRules d.name g.directives)
  record : ∃ text entries, t.read (out.push dependenciesName) = .ok text ∧
    Dependency.readAll text = .ok entries ∧
    entries.Perm ((s.offers ds).map (Offer.entry s.layout)) ∧
    entries.Pairwise fun e f => e.1.same f.1 = false

theorem delivers_of_files {out : Storage.Path} {t : Storage.Tree}
    (files : ∀ a ∈ s.offers ds, t.read (out.join (a.path s.layout)) = .ok (a.text s.layout))
    (record : ∃ text entries, t.read (out.push dependenciesName) = .ok text ∧
      Dependency.readAll text = .ok entries ∧
      entries.Perm ((s.offers ds).map (Offer.entry s.layout)) ∧
      entries.Pairwise fun e f => e.1.same f.1 = false) : s.Delivers ds out t := by
  have offered {d : Declaration} {g : Generation} {a : Offer} (hd : d ∈ ds)
      (hg : s.process d = .generated g) (ha : a ∈ (Outcome.generated g).offers d) :
      a ∈ s.offers ds :=
    List.mem_flatMap.2 ⟨d, hd, hg ▸ ha⟩
  refine ⟨fun d hd g hg h hh => ?_, fun d hd g hg => ?_, record⟩
  · exact files (.hierarchy h d.origin)
      (offered hd hg (List.mem_append_left _ (List.mem_map_of_mem hh)))
  · exact files (.retention d.name g.directives d.origin)
      (offered hd hg (List.mem_append_right _ (List.mem_singleton_self _)))

/-- The output that a generation starts with. -/
def Settings.emptyOutput (s : Settings) (out : Storage.Path) (t : Storage.Tree) : Output where
  root := out
  layout := s.layout
  storage := t

/-- The output of a generation before the record of dependencies is written. -/
def Settings.output (s : Settings) (ds : List Declaration) (out : Storage.Path)
    (t : Storage.Tree) : Output :=
  (s.run ds (s.emptyOutput out t)).emitter

theorem fromFile_eq_ok {t : Storage.Tree} {p : Storage.Path} {text : String} {m : Manifest}
    (ht : t.read p = .ok text) (hm : Manifest.read text = .ok m) :
    Manifest.fromFile t p = .ok m := by
  simp only [Manifest.fromFile, ht, hm]

theorem generate_of_fromFile_eq_ok {manifest : Storage.Path} (out : Storage.Path)
    {t : Storage.Tree} {m : Manifest} (h : Manifest.fromFile t manifest = .ok m) :
    (s.generate manifest out t).storage = ((s.output m.declarations out t).writeDependencies
        (out.push dependenciesName)).1.storage ∧
      (s.generate manifest out t).outcome =
        match ((s.output m.declarations out t).writeDependencies (out.push dependenciesName)).2 with
        | some e => .error (.output e)
        | none => .ok (s.run m.declarations (s.emptyOutput out t)).value := by
  unfold Settings.output Settings.emptyOutput
  rcases hw : (s.run m.declarations
      ({ root := out, layout := s.layout, storage := t } : Output)).emitter.writeDependencies
        (out.push dependenciesName) with ⟨o, _ | e⟩ <;>
    simp only [Settings.generate, h, hw, and_self]

/-- **Generation.** A manifest that cannot be read or decoded is the result, and storage is as
before. Otherwise only the record of dependencies can make the generation fail. A report without
errors delivers everything. -/
theorem generate_delivers (s : Settings) (manifest out : Storage.Path) (t : Storage.Tree)
    (hl : s.layout.IsNormal) :
    (∀ f, Manifest.fromFile t manifest = .error f →
      (s.generate manifest out t).outcome = .error f ∧ (s.generate manifest out t).storage = t) ∧
    ∀ m, Manifest.fromFile t manifest = .ok m →
      (∀ f, (s.generate manifest out t).outcome = .error f ↔
        ∃ e, f = .output e ∧ ((s.output m.declarations out t).writeDependencies
          (out.push dependenciesName)).2 = some e) ∧
      ∀ report, (s.generate manifest out t).outcome = .ok report → report.hasErrors = false →
        (∀ d ∈ m.declarations, d.SlashFree) →
        s.Delivers m.declarations out (s.generate manifest out t).storage := by
  refine ⟨fun f hf => ?_, fun m hm => ?_⟩
  · simp only [Settings.generate, hf, and_self]
  obtain ⟨storage, outcome⟩ := generate_of_fromFile_eq_ok (s := s) out hm
  rw [storage, outcome]
  cases refused : ((s.output m.declarations out t).writeDependencies
      (out.push dependenciesName)).2 with
  | some e => exact ⟨fun f => by simp [eq_comm], nofun⟩
  | none =>
    refine ⟨fun f => by simp, fun report ok clean names => ?_⟩
    cases ok
    have kept : (s.output m.declarations out t).Keeps (s.emptyOutput out t)
        (s.offers m.declarations) := run_keeps rfl hl names clean
    obtain ⟨entries, listed, perm, distinct⟩ := kept.listed
    have files := kept.writeDependencies hl (slashFree_offers names)
    simp only [Settings.emptyOutput] at files
    refine delivers_of_files files ⟨_, entries, ?_, listed, perm, distinct⟩
    exact read_writeDependencies refused

/-- A manifest of one declaration with a model and one without. -/
def loadManifest : Manifest where
  declarations :=
    [{ name := ⟨"app.Load"⟩
       kind := .interface
       modifiers := [.isSealed]
       variants := [{ name := "Done", kind := .object }]
       models := some [{ type := { path := ⟨"app.User"⟩ } }]
       origin := some "app/Load.kt" },
     { name := ⟨"app.Idle"⟩, kind := .klass, modifiers := [.isSealed] }]

/-- Storage that holds the manifest and nothing else. -/
def loadStorage : Storage.Tree where
  nodes := [(["load.json"], .file loadManifest.write)]

theorem fromFile_loadStorage :
    Manifest.fromFile loadStorage ⟨"load.json"⟩ = .ok loadManifest :=
  fromFile_eq_ok rfl
    ((Json.decodeAll_pretty (recovers_manifest loadManifest)).trans (if_pos (by decide)))

theorem loadManifest_delivers :
    ∃ report, (lax.generate ⟨"load.json"⟩ ⟨"out"⟩ loadStorage).outcome = .ok report ∧
      report.hasErrors = false ∧
      lax.Delivers loadManifest.declarations ⟨"out"⟩
        (lax.generate ⟨"load.json"⟩ ⟨"out"⟩ loadStorage).storage := by
  have written : ((lax.output loadManifest.declarations ⟨"out"⟩ loadStorage).writeDependencies
      ((⟨"out"⟩ : Storage.Path).push dependenciesName)).2 = none := by decide +kernel
  have clean : (lax.run loadManifest.declarations
      (lax.emptyOutput ⟨"out"⟩ loadStorage)).value.hasErrors = false := by decide +kernel
  have outcome := (generate_of_fromFile_eq_ok (s := lax) ⟨"out"⟩ fromFile_loadStorage).2
  rw [written] at outcome
  have names : ∀ d ∈ loadManifest.declarations, d.SlashFree := by
    unfold Declaration.SlashFree QualifiedName.SlashFree
    decide
  have delivered := generate_delivers lax ⟨"load.json"⟩ ⟨"out"⟩ loadStorage (by decide)
  exact ⟨_, outcome, clean, (delivered.2 _ fromFile_loadStorage).2 _ outcome clean names⟩

end Concretize
