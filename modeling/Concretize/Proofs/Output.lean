import Concretize.Proofs.Pass
import Concretize.Proofs.Storage

/-!
# What an output keeps

The files of a pass against the outputs that were accepted, whatever is offered, in whatever order,
and whichever writes fail.

* `make_cases`: an offer is refused because its path is taken, refused because its write fails, or
  written and recorded.
* `Output.Keeps.refuse`, `Output.Keeps.accept`: each of the three leaves records and files in step.
* `keeps_of_replays`: so after any calls on a fresh output, exactly the accepted outputs are
  recorded and stand in storage as they were rendered.

Different outputs never share a file, because their paths are normal and different paths of that
form lead to different places.
-/
namespace Concretize

/-! ## Offers -/

/-- Where an offer goes, below the output directory. -/
def Offer.path (layout : Layout) : Offer → Storage.Path
  | .hierarchy h _ => h.path
  | .retention source _ _ => (⟨layout.keepRules⟩ : Storage.Path).push (keepRulesFileName source)

/-- The text an offer is rendered to. -/
def Offer.text (layout : Layout) : Offer → String
  | .hierarchy h _ => h.render layout
  | .retention source directives _ => renderKeepRules source directives

/-- The source file an offer comes from. -/
def Offer.origin : Offer → Option String
  | .hierarchy _ origin => origin
  | .retention _ _ origin => origin

/-- Whether an offer is a hierarchy, whose file stands for all of its source. -/
def Offer.isHierarchy : Offer → Bool
  | .hierarchy .. => true
  | .retention .. => false

/-- The name of the file an offer goes to. -/
def Offer.fileName : Offer → String
  | .hierarchy h _ => h.simpleName ++ ".kt"
  | .retention source _ _ => keepRulesFileName source

/-- The record of an accepted offer. -/
def Offer.record (layout : Layout) (a : Offer) : OutputRecord where
  path := a.path layout
  aggregating := a.isHierarchy
  source := a.origin

/-- The name that decides where an offer goes. -/
def Offer.name : Offer → QualifiedName
  | .hierarchy h _ => h.name
  | .retention source _ _ => source

/-- Whether the directory of the keep rules is a relative path of normal components. -/
def Layout.IsNormal (layout : Layout) : Prop := (⟨layout.keepRules⟩ : Storage.Path).IsNormal

instance (layout : Layout) : Decidable layout.IsNormal :=
  inferInstanceAs (Decidable (⟨layout.keepRules⟩ : Storage.Path).IsNormal)

theorem slash_notMem_dottedText {n : QualifiedName} (h : n.SlashFree) :
    '/' ∉ n.dottedText.toList := by
  rw [QualifiedName.dottedText, String.toList_ofList]
  exact fun hm => (mem_of_mem_dotted hm).elim h (by decide)

theorem isPlain_keepRulesFileName {source : QualifiedName} (h : source.SlashFree) :
    Storage.Path.IsPlain (keepRulesFileName source) ∧ keepRulesFileName source ≠ "" := by
  have file : '/' ∉ ("sealforge-" ++ source.dottedText).toList := by
    rw [String.toList_append, List.mem_append, not_or]
    exact ⟨by decide, slash_notMem_dottedText h⟩
  exact isPlain_append ".pro" file (by decide) (by decide)

/-- An offer goes to a file of its name, in directories below the output directory. -/
theorem Offer.isNormal_path {layout : Layout} (hl : layout.IsNormal) {a : Offer}
    (ha : a.name.SlashFree) : (a.path layout).IsNormal ∧
      ∃ directories, (a.path layout).names = directories ++ [a.fileName] := by
  cases a with
  | hierarchy h origin =>
    obtain ⟨normal, names⟩ := Hierarchy.isNormal_path ha
    exact ⟨normal, _, names⟩
  | retention source directives origin =>
    obtain ⟨⟨hs, hd, hp⟩, some_name⟩ := isPlain_keepRulesFileName ha
    obtain ⟨normal, names⟩ := Storage.Path.isNormal_push hl hs hd hp
    rw [if_neg some_name] at names
    exact ⟨normal, _, names⟩

theorem make_eq_offer (a : Offer) (o : Output) :
    a.make o = o.offer (a.path o.layout) (a.text o.layout) a.origin a.isHierarchy := by
  unfold Offer.make Offer.path Offer.text Offer.origin Offer.isHierarchy
  cases a <;> rfl

/-! ## One offer -/

theorem insertRecord_perm (r : OutputRecord) (records : List OutputRecord) :
    (insertRecord r records).Perm (r :: records) := by
  induction records with
  | nil => exact .refl _
  | cons s rest ih =>
    rw [insertRecord]
    split
    · exact .refl _
    · exact (ih.cons s).trans (.swap r s rest)

/-- The write that an offer asks for. -/
def Output.writeOf (o : Output) (a : Offer) : Storage.Tree × Option OutputError :=
  writeFile o.storage (o.root.join (a.path o.layout)) (a.text o.layout)

theorem writeOf_spares (o : Output) (a : Offer) :
    o.storage.Spares (o.root.join (a.path o.layout)).target (o.writeOf a).1 := by
  unfold Output.writeOf
  exact writeFile_spares

theorem read_writeOf {o : Output} {a : Offer} (h : (o.writeOf a).2 = none) :
    (o.writeOf a).1.read (o.root.join (a.path o.layout)) = .ok (a.text o.layout) := by
  unfold Output.writeOf at h ⊢
  exact read_writeFile h

/-- The three things that can become of an offer. -/
theorem make_cases (a : Offer) (o : Output) :
    (o.has (a.path o.layout) = true ∧
      (a.make o).1.refusal = some (.emit (a.path o.layout).text .alreadyWritten) ∧
      (a.make o).2 = o) ∨
    (o.has (a.path o.layout) = false ∧ ∃ e, (o.writeOf a).2 = some e ∧
      (a.make o).1.refusal = some e.toGenerationError ∧
      (a.make o).2 = { o with storage := (o.writeOf a).1 }) ∨
    (o.has (a.path o.layout) = false ∧ (o.writeOf a).2 = none ∧ (a.make o).1.refusal = none ∧
      (a.make o).2 =
        { o with
          storage := (o.writeOf a).1
          records := insertRecord (a.record o.layout) o.records }) := by
  rw [make_eq_offer, Output.offer]
  cases taken : o.has (a.path o.layout) with
  | true => exact .inl ⟨rfl, rfl, rfl⟩
  | false =>
    refine .inr ?_
    simp only [Bool.false_eq_true, if_false]
    rw [← Output.writeOf]
    cases hw : o.writeOf a with
    | mk storage refused =>
      cases refused with
      | some e => exact .inl ⟨trivial, e, rfl, rfl, rfl⟩
      | none => exact .inr ⟨trivial, rfl, rfl, rfl⟩

/-! ## Keeping -/

/-- `o.Keeps start accepted`: since `start`, exactly these offers were accepted. Their records are
those of `o`, no two have the same path, and the file of each reads as it was rendered. -/
structure Output.Keeps (o start : Output) (accepted : List Offer) : Prop where
  root : o.root = start.root
  layout : o.layout = start.layout
  records : o.records.Perm (accepted.map (·.record start.layout))
  distinct : accepted.Pairwise fun a b =>
    (a.path start.layout).same (b.path start.layout) = false
  files : ∀ a ∈ accepted,
    o.storage.read (start.root.join (a.path start.layout)) = .ok (a.text start.layout)

variable {start o o' : Output} {kept : List Offer} {a : Offer}

theorem Output.Keeps.fresh (h : o.records = []) : o.Keeps o [] where
  root := rfl
  layout := rfl
  records := h ▸ .refl _
  distinct := .nil
  files := nofun

theorem Output.Keeps.has_iff (h : o.Keeps start kept) (p : Storage.Path) :
    o.has p = true ↔ ∃ b ∈ kept, (b.path start.layout).same p = true := by
  unfold Output.has
  rw [List.any_eq_true]
  constructor
  · rintro ⟨r, hr, hs⟩
    obtain ⟨b, hb, rfl⟩ := List.mem_map.1 (h.records.mem_iff.1 hr)
    exact ⟨b, hb, hs⟩
  · rintro ⟨b, hb, hs⟩
    exact ⟨_, h.records.mem_iff.2 (List.mem_map_of_mem hb), hs⟩

/-- A free path is no path of an accepted output. -/
theorem Output.Keeps.different (h : o.Keeps start kept) (free : o.has (a.path o.layout) = false) :
    ∀ b ∈ kept, (b.path start.layout).same (a.path start.layout) = false := by
  intro b hb
  rw [← Bool.not_eq_true]
  intro hs
  rw [h.layout, Bool.eq_false_iff] at free
  exact free ((h.has_iff _).2 ⟨b, hb, hs⟩)

theorem Output.Keeps.withStorage (h : o.Keeps start kept) {t : Storage.Tree}
    (files : ∀ b ∈ kept, t.read (start.root.join (b.path start.layout)) =
      .ok (b.text start.layout)) : { o with storage := t }.Keeps start kept :=
  ⟨h.root, h.layout, h.records, h.distinct, files⟩

theorem Output.Keeps.withRecord {t : Storage.Tree} (h : { o with storage := t }.Keeps start kept)
    (free : o.has (a.path o.layout) = false)
    (file : t.read (start.root.join (a.path start.layout)) = .ok (a.text start.layout)) :
    { o with storage := t, records := insertRecord (a.record o.layout) o.records }.Keeps start
      (kept ++ [a]) where
  root := h.root
  layout := h.layout
  records := by
    have layout : o.layout = start.layout := h.layout
    rw [List.map_append, layout]
    exact (insertRecord_perm _ _).trans ((h.records.cons _).trans
      (List.perm_append_singleton _ _).symm)
  distinct := by
    refine List.pairwise_append.2 ⟨h.distinct, List.pairwise_singleton _ _, fun b hb c hc => ?_⟩
    rw [List.mem_singleton.1 hc]
    exact h.different free b hb
  files b hb := by
    rcases List.mem_append.1 hb with hb | hb
    · exact h.files b hb
    · rw [List.mem_singleton.1 hb]
      exact file

section Step
variable (h : o.Keeps start kept) (hl : start.layout.IsNormal)
  (names : ∀ b ∈ kept, b.name.SlashFree) (ha : a.name.SlashFree)
include h hl names ha

/-- A write to a free path spares every accepted file. -/
theorem Output.Keeps.spared (free : o.has (a.path o.layout) = false) :
    { o with storage := (o.writeOf a).1 }.Keeps start kept := by
  refine h.withStorage fun b hb =>
    Storage.Tree.read_of_spares (writeOf_spares o a) ?_ (h.files b hb)
  rw [h.root, h.layout]
  exact Storage.Path.target_join_ne _ (Offer.isNormal_path hl (names b hb)).1
    (Offer.isNormal_path hl ha).1 (h.different free b hb)

/-- A refusal changes nothing that was accepted. -/
theorem Output.Keeps.refuse {e : GenerationError} (refusal : (a.make o).1.refusal = some e) :
    (∃ path fault, e = .emit path fault) ∧ (a.make o).2.records = o.records ∧
      (a.make o).2.Keeps start kept := by
  rcases make_cases a o with ⟨taken, hr, hm⟩ | ⟨free, f, hw, hr, hm⟩ | ⟨free, hw, hr, hm⟩
  · rw [refusal, Option.some_inj] at hr
    rw [hm]
    exact ⟨⟨_, _, hr⟩, rfl, h⟩
  · rw [refusal, Option.some_inj] at hr
    rw [hm]
    refine ⟨?_, rfl, h.spared hl names ha free⟩
    cases f <;> exact ⟨_, _, hr⟩
  · rw [refusal] at hr
    cases hr

/-- An accepted offer is kept from then on, and all that was accepted before. -/
theorem Output.Keeps.accept (refusal : (a.make o).1.refusal = none) :
    (a.make o).2.Keeps start (kept ++ [a]) := by
  rcases make_cases a o with ⟨taken, hr, hm⟩ | ⟨free, f, hw, hr, hm⟩ | ⟨free, hw, hr, hm⟩
  · rw [refusal] at hr
    cases hr
  · rw [refusal] at hr
    cases hr
  · have written := read_writeOf hw
    rw [h.root, h.layout] at written
    rw [hm]
    exact (h.spared hl names ha free).withRecord free written

end Step

/-! ## All offers -/

theorem Output.Keeps.replays {cs : List Call} (h : o.Keeps start kept)
    (hl : start.layout.IsNormal) (names : ∀ b ∈ kept, b.name.SlashFree)
    (later : ∀ a ∈ cs.filterMap Call.offer?, a.name.SlashFree) (hr : Replays o cs o') :
    o'.Keeps start (kept ++ cs.filterMap Call.accepted?) := by
  induction hr generalizing kept with
  | nil o =>
    rw [List.filterMap_nil, List.append_nil]
    exact h
  | @offer o o' cs a _ ih =>
    have ha : a.name.SlashFree := later a List.mem_cons_self
    have others : ∀ b ∈ cs.filterMap Call.offer?, b.name.SlashFree :=
      fun b hb => later b (List.mem_cons_of_mem a hb)
    cases refusal : (a.make o).1.refusal with
    | some e => exact ih (h.refuse hl names ha refusal).2.2 names others
    | none =>
      have first := ih (h.accept hl names ha refusal)
        (fun b hb => (List.mem_append.1 hb).elim (names b) fun hb =>
          List.mem_singleton.1 hb ▸ ha) others
      rw [List.append_assoc] at first
      exact first
  | report x _ ih => exact ih ⟨h.root, h.layout, h.records, h.distinct, h.files⟩ names later

/-- **Output invariant.** After any calls on a fresh output, whichever of its writes failed, exactly
the accepted outputs are recorded, each under a path of its own, and their files read as they were
rendered. A further offer is accepted if its path is free and its write succeeds. Otherwise it is
refused with an error of its own sort and changes neither the records nor any accepted file. -/
theorem keeps_of_replays {cs : List Call} (fresh : o.records = []) (hl : o.layout.IsNormal)
    (names : ∀ a ∈ cs.filterMap Call.offer?, a.name.SlashFree) (h : Replays o cs o') :
    o'.Keeps o (cs.filterMap Call.accepted?) ∧
      ∀ a : Offer, a.name.SlashFree →
        ((a.make o').1.refusal = none ↔
          o'.has (a.path o.layout) = false ∧ (o'.writeOf a).2 = none) ∧
        ∀ e, (a.make o').1.refusal = some e →
          (∃ path fault, e = .emit path fault) ∧ (a.make o').2.records = o'.records ∧
            (a.make o').2.Keeps o (cs.filterMap Call.accepted?) := by
  have accepted : ∀ b ∈ cs.filterMap Call.accepted?, b.name.SlashFree := by
    intro b hb
    obtain ⟨c, hc, hcb⟩ := List.mem_filterMap.1 hb
    refine names b (List.mem_filterMap.2 ⟨c, hc, ?_⟩)
    cases c with
    | offer b' refusal => cases refusal <;> cases hcb; rfl
    | report x => cases hcb
  have kept := (Output.Keeps.fresh fresh).replays hl nofun names h
  rw [List.nil_append] at kept
  refine ⟨kept, fun a ha => ⟨?_, fun e he => kept.refuse hl accepted ha he⟩⟩
  rw [← kept.layout]
  rcases make_cases a o' with ⟨taken, hr, -⟩ | ⟨free, f, hw, hr, -⟩ | ⟨free, hw, hr, -⟩
  · simp [hr, taken]
  · simp [hr, hw]
  · simp [hr, free, hw]

/-- The rules of a declaration without directives. -/
def bareRules : Offer := .retention ⟨"app.Load"⟩ [] (some "app/Load.kt")

/-- An output on a disk that is full when the first file is written, and then no more. -/
def crowded : Output where
  root := ⟨"out"⟩
  layout := { keepRules := "rules" }
  storage :=
    { mishaps := [none, none, none, some { fault := .other "disk full", left := some "# Gen" }] }

theorem bareRules_kept :
    ∃ o, Replays crowded
        [.offer bareRules (some (.emit "out/rules/sealforge-app.Load.pro" (.other "disk full"))),
          .offer bareRules none,
          .offer bareRules (some (.emit "rules/sealforge-app.Load.pro" .alreadyWritten))] o ∧
      o.Keeps crowded [bareRules] := by
  have first : (bareRules.make crowded).1.refusal =
      some (.emit "out/rules/sealforge-app.Load.pro" (.other "disk full")) := by decide +kernel
  have second : (bareRules.make (bareRules.make crowded).2).1.refusal = none := by decide +kernel
  have third : (bareRules.make (bareRules.make (bareRules.make crowded).2).2).1.refusal =
      some (.emit "rules/sealforge-app.Load.pro" .alreadyWritten) := by decide +kernel
  have made := Replays.offer (e := crowded) bareRules (.offer bareRules (.offer bareRules (.nil _)))
  rw [first, second, third] at made
  refine ⟨_, made, (keeps_of_replays rfl (by decide) ?_ made).1⟩
  intro a ha
  have : a = bareRules := by simpa [Call.offer?] using ha
  rw [this]
  decide

end Concretize
