import Concretize.Proofs.Growth
import Concretize.Proofs.Output

/-!
# What stays below the output directory

The paths of outputs are made of names, and nothing checks these names for slashes. A slash adds
components to a path, and a name that begins with one replaces what stands before it.

* `directories_path_iff`, `segments_path_iff`, `keepRules_components_iff`: outputs go where their
  names say, exactly if no slash occurs in them.
* `file_writeFile`: a write touches no file but the one that its path leads to.
* `outputs_confined`: so, whatever is offered under names without slashes, all files outside the
  output directory stay as they are.
* `slashedNames_escape`: a slash leads out of it.
-/
namespace Concretize

open Storage (splitAt Component Location)

/-! ## Names of components -/

theorem Storage.exists_mem_splitChars {sep c : Char} {cs : List Char} (h : c ∈ cs) (hc : c ≠ sep) :
    ∃ piece ∈ splitChars sep cs, c ∈ piece := by
  induction cs with
  | nil => cases h
  | cons d cs ih =>
    rw [splitChars]
    split
    · next hd =>
      obtain ⟨piece, hp, hm⟩ := ih ((List.mem_cons.1 h).resolve_left fun e => hc (e.trans hd))
      exact ⟨piece, List.mem_cons_of_mem _ hp, hm⟩
    · cases hs : splitChars sep cs with
      | nil => exact absurd hs (splitChars_ne_nil cs)
      | cons head tail =>
        rcases List.mem_cons.1 h with rfl | h
        · exact ⟨_, List.mem_cons_self, List.mem_cons_self⟩
        · obtain ⟨piece, hp, hm⟩ := ih h
          rw [hs] at hp
          rcases List.mem_cons.1 hp with rfl | hp
          · exact ⟨_, List.mem_cons_self, List.mem_cons_of_mem _ hm⟩
          · exact ⟨piece, List.mem_cons_of_mem _ hp, hm⟩

/-- A normal component is a piece between slashes that says something. -/
theorem Storage.Path.of_normal_mem_components {p : Path} {name : String}
    (h : .normal name ∈ p.components) : name ≠ "" ∧ '/' ∉ name.toList := by
  have found : .normal name ∈ p.pieces.filterMap component? := by
    unfold components at h
    split at h
    · simpa using h
    · split at h
      · simpa using h
      · exact h
  obtain ⟨piece, hp, hc⟩ := List.mem_filterMap.1 found
  unfold component? at hc
  split at hc
  · cases hc
  · next idle =>
    split at hc <;> cases hc
    exact ⟨fun e => idle (by simp [e]), fun hm => (mem_of_mem_splitAt hp hm).2 rfl⟩

theorem mem_dotted {c : Char} {cs : List Char} (h : c ∈ cs) (hc : c ≠ ':') : c ∈ dotted cs := by
  fun_induction dotted cs with
  | case1 rest ih => grind
  | case2 d rest _ ih => grind
  | case3 => cases h

/-- A piece that is no detour is one component. -/
theorem Storage.Path.components_of_isPlain {piece : String} (h : IsPlain piece)
    (some_text : piece ≠ "") : (⟨piece⟩ : Path).components = [.normal piece] := by
  obtain ⟨slash, dot, dots⟩ := h
  have relative : piece.toList.head? ≠ some '/' := fun e => slash (List.mem_of_mem_head? e)
  simp [components, isAbsolute, pieces_of_not_mem slash, component?, relative, some_text, dot, dots]

/-- A character that makes no separator is in the simple name or in the package. -/
theorem QualifiedName.mem_parts {n : QualifiedName} {c : Char} (h : c ∈ n.text.toList)
    (hd : c ≠ '.') (hc : c ≠ ':') :
    c ∈ n.simpleName.toList ∨ ∃ package, n.dottedPackage? = some package ∧ c ∈ package.toList := by
  unfold simpleName dottedPackage? package?
  cases hs : splitName n.text.toList with
  | none => exact .inl h
  | some s =>
    rw [eq_append_of_splitName hs, List.mem_append, List.mem_append] at h
    simp only [String.toList_ofList, Option.map_some, Option.some_inj, exists_eq_left']
    rcases h with (h | h) | h
    · exact .inr (mem_dotted h hc)
    · cases hsep : s.separator <;> simp_all [Separator.chars]
    · exact .inl h

/-! ## Paths and names -/

/-- The segments of the package that the source file of a hierarchy states. -/
def Hierarchy.segments (h : Hierarchy) : List String :=
  (h.sourceFile.package.map (splitAt '.')).getD []

/-- The name of the source file of a hierarchy. -/
def Hierarchy.fileName (h : Hierarchy) : String := h.simpleName ++ ".kt"

theorem directories_eq (h : Hierarchy) : h.directories = h.segments.filter (· ≠ "") := rfl

theorem slashFree_of_parts {n : QualifiedName} (simple : '/' ∉ n.simpleName.toList)
    (segments : ∀ package, n.dottedPackage? = some package →
      ∀ segment ∈ splitAt '.' package, segment ≠ "" → '/' ∉ segment.toList) : n.SlashFree := by
  intro slash
  rcases QualifiedName.mem_parts slash (by decide) (by decide) with hs | ⟨package, hp, hs⟩
  · exact simple hs
  · have dot : '/' ≠ '.' := by decide
    obtain ⟨piece, hpiece, hc⟩ := Storage.exists_mem_splitChars hs dot
    have found : String.ofList piece ∈ splitAt '.' package := List.mem_map_of_mem hpiece
    refine segments package hp _ found ?_ (by rwa [String.toList_ofList])
    rintro e
    rw [← String.toList_inj, String.toList_ofList] at e
    rw [e] at hc
    cases hc

/-- The path of a hierarchy goes down its directories to its file, exactly if no slash occurs in the
name. -/
theorem directories_path_iff {h : Hierarchy} :
    h.path.components = (h.directories ++ [h.fileName]).map .normal ↔ h.name.SlashFree := by
  constructor
  · intro path
    have free {name : String} (hn : name ∈ h.directories ++ [h.fileName]) : '/' ∉ name.toList := by
      have component : Component.normal name ∈ h.path.components := by
        rw [path]
        exact List.mem_map_of_mem hn
      exact (Storage.Path.of_normal_mem_components component).2
    refine slashFree_of_parts (fun slash => ?_) fun package hp segment hm some_text => ?_
    · refine free (List.mem_append_right _ (List.mem_singleton_self _)) ?_
      rw [Hierarchy.fileName, String.toList_append]
      exact List.mem_append_left _ slash
    · refine free (List.mem_append_left _ ?_)
      rw [Hierarchy.directories, hp]
      exact List.mem_filter.2 ⟨hm, by simpa using some_text⟩
  · intro free
    obtain ⟨normal, names⟩ := Hierarchy.isNormal_path free
    rw [normal.components_eq, names]
    rfl

/-- It goes down all segments of the package if, moreover, none of them is empty. -/
theorem segments_path_iff {h : Hierarchy} :
    h.path.components = (h.segments ++ [h.fileName]).map .normal ↔
      h.name.SlashFree ∧ "" ∉ h.segments := by
  have kept (full : "" ∉ h.segments) : h.directories = h.segments := by
    rw [directories_eq, List.filter_eq_self]
    exact fun segment hm => by simpa using fun e : segment = "" => full (e ▸ hm)
  rw [← directories_path_iff]
  constructor
  · intro path
    have full : "" ∉ h.segments := by
      intro empty
      have component : Component.normal "" ∈ h.path.components := by
        rw [path]
        exact List.mem_map_of_mem (List.mem_append_left _ empty)
      exact (Storage.Path.of_normal_mem_components component).1 rfl
    rw [kept full]
    exact ⟨path, full⟩
  · rintro ⟨path, full⟩
    rwa [kept full] at path

/-- The name of a rules file is one component, exactly if no slash occurs in the name of the
declaration. -/
theorem keepRules_components_iff {source : QualifiedName} :
    (⟨keepRulesFileName source⟩ : Storage.Path).components = [.normal (keepRulesFileName source)] ↔
      source.SlashFree := by
  constructor
  · intro path slash
    have component : Component.normal (keepRulesFileName source) ∈
        (⟨keepRulesFileName source⟩ : Storage.Path).components := by simp [path]
    refine (Storage.Path.of_normal_mem_components component).2 ?_
    have dotted : '/' ∈ source.dottedText.toList := by
      rw [QualifiedName.dottedText, String.toList_ofList]
      exact mem_dotted slash (by decide)
    simp [keepRulesFileName, String.toList_append, dotted]
  · intro free
    obtain ⟨plain, some_text⟩ := isPlain_keepRulesFileName free
    exact Storage.Path.components_of_isPlain plain some_text

/-! ## Files outside -/

section Write
variable {t : Storage.Tree} {p : Storage.Path} {l : Location} {text : String}

/-- A write touches no file but the one that its path leads to. -/
theorem file_writeFile (elsewhere : l ≠ p.target) (written : String) :
    (writeFile t p written).1.node? l = some (.file text) ↔ t.node? l = some (.file text) := by
  refine writeFile_induct
    (I := fun t' => t'.node? l = some (.file text) ↔ t.node? l = some (.file text))
    (fun _ h => h) (fun t' q k h _ free => ?_) (fun t' k _ h located _ => ?_) Iff.rfl
  · rw [← h]
    by_cases e : l = k
    · have below : k ≠ [] := Storage.Tree.ne_nil_of_node? (by rw [free]; nofun)
      simp [e, Storage.Tree.node?_put_self below, free]
    · rw [Storage.Tree.node?_put_ne e]
  · rw [Storage.Tree.target_of_locate located, Storage.Tree.node?_put_ne elsewhere, h]

end Write

/-- The location is below the place where the path leads. -/
def Storage.Path.Covers (p : Storage.Path) (l : Location) : Prop :=
  p.target <+: l ∧ l ≠ p.target

/-- Since `start`, no file outside the output directory was written, changed or removed. -/
structure Output.Confined (start o : Output) : Prop where
  root : o.root = start.root
  layout : o.layout = start.layout
  outside : ∀ l, ¬ start.root.Covers l → ∀ text,
    (o.storage.node? l = some (.file text) ↔ start.storage.node? l = some (.file text))

variable {start o o' : Output}

theorem Output.Confined.refl (o : Output) : o.Confined o := ⟨rfl, rfl, fun _ _ _ => Iff.rfl⟩

/-- The file of an offer is below the output directory. -/
theorem covers_target (root : Storage.Path) {layout : Layout} (hl : layout.IsNormal) {a : Offer}
    (ha : a.name.SlashFree) : root.Covers (root.join (a.path layout)).target := by
  obtain ⟨normal, directories, names⟩ := Offer.isNormal_path hl ha
  rw [Storage.Path.Covers, Storage.Path.target_join root normal, names]
  exact ⟨List.prefix_append _ _, by simp⟩

/-- One offer, accepted or refused. -/
theorem Output.Confined.make (h : start.Confined o) (hl : start.layout.IsNormal) {a : Offer}
    (ha : a.name.SlashFree) : start.Confined (a.make o).2 := by
  have outside : ∀ l, ¬ start.root.Covers l → ∀ text,
      ((o.writeOf a).1.node? l = some (.file text) ↔
        start.storage.node? l = some (.file text)) := by
    intro l hc text
    have elsewhere : l ≠ (o.root.join (a.path o.layout)).target := by
      rw [h.root, h.layout]
      rintro rfl
      exact hc (covers_target start.root hl ha)
    rw [Output.writeOf, file_writeFile elsewhere, h.outside l hc]
  rcases make_cases a o with ⟨-, -, hm⟩ | ⟨-, e, -, -, hm⟩ | ⟨-, -, -, hm⟩ <;> rw [hm]
  · exact h
  · exact ⟨h.root, h.layout, outside⟩
  · exact ⟨h.root, h.layout, outside⟩

/-- Any number of calls. -/
theorem Output.Confined.replays {cs : List Call} (h : start.Confined o)
    (hl : start.layout.IsNormal) (names : ∀ a ∈ cs.filterMap Call.offer?, a.name.SlashFree)
    (hr : Replays o cs o') : start.Confined o' := by
  induction hr with
  | nil => exact h
  | offer a _ ih =>
    have first := h.make hl (names a List.mem_cons_self)
    exact ih first fun b hb => names b (List.mem_cons_of_mem a hb)
  | report x _ ih => exact ih ⟨h.root, h.layout, h.outside⟩ names

/-- **Outputs stay below the output directory.** The path of a source file goes down the segments of
the package to the name of the hierarchy, exactly if no slash occurs in them (an empty segment is no
component, and is left out). The name of a rules file is one component under the same condition. If
it holds for every name that is offered, no file outside the output directory is touched. -/
theorem outputs_confined (h : Hierarchy) (source : QualifiedName) (o : Output) :
    ((h.path.components = (h.directories ++ [h.fileName]).map .normal ↔ h.name.SlashFree) ∧
      (h.path.components = (h.segments ++ [h.fileName]).map .normal ↔
        h.name.SlashFree ∧ "" ∉ h.segments)) ∧
    ((⟨keepRulesFileName source⟩ : Storage.Path).components =
      [.normal (keepRulesFileName source)] ↔ source.SlashFree) ∧
    (o.layout.IsNormal → ∀ (o' : Output) (cs : List Call),
      (∀ a ∈ cs.filterMap Call.offer?, a.name.SlashFree) → Replays o cs o' → o.Confined o') :=
  ⟨⟨directories_path_iff, segments_path_iff⟩, keepRules_components_iff,
    fun hl _ _ names hr => (Output.Confined.refl o).replays hl names hr⟩

/-- An output beside the rules of the user. -/
def besideRules : Output where
  root := ⟨"out"⟩
  layout := { keepRules := "r8" }
  storage := { nodes := [(["keep.pro"], .file "-dontshrink")] }

/-- A hierarchy without variants, under the given name. -/
def bareHierarchy (name : String) : Hierarchy where
  name := ⟨name⟩
  source := ⟨"app.Load"⟩
  kind := .interface
  modifiers := [.isSealed]
  markers := []
  binding := ⟨none, { path := ⟨"app.User"⟩ }⟩
  variants := []

theorem besideRules_confined :
    ∃ o, Replays besideRules
        [.offer (.hierarchy (bareHierarchy "app.UserLoad") none) none,
          .offer (.retention ⟨"app::Load"⟩ [] none) none] o ∧
      besideRules.Confined o := by
  have first : ((Offer.hierarchy (bareHierarchy "app.UserLoad") none).make
      besideRules).1.refusal = none := by decide +kernel
  have second : ((Offer.retention ⟨"app::Load"⟩ [] none).make
      ((Offer.hierarchy (bareHierarchy "app.UserLoad") none).make besideRules).2).1.refusal =
        none := by decide +kernel
  have made := Replays.offer (e := besideRules) (.hierarchy (bareHierarchy "app.UserLoad") none)
    (.offer (.retention ⟨"app::Load"⟩ [] none) (.nil _))
  rw [first, second] at made
  obtain ⟨-, -, confined⟩ :=
    outputs_confined (bareHierarchy "app.UserLoad") ⟨"app::Load"⟩ besideRules
  exact ⟨_, made, confined (by decide) _ _ (by decide) made⟩

/-- A name that begins with a slash makes an absolute path, and a name that climbs puts a rules file
beside the output directory, in place of the one of the user. -/
theorem slashedNames_escape :
    (bareHierarchy "/srv.UserLoad").path.components =
      [.root, .normal "srv", .normal "UserLoad.kt"] ∧
    ∃ o, Replays besideRules [.offer (.retention ⟨"a/../../../keep"⟩ [] none) none] o ∧
      ¬ besideRules.root.Covers ["keep.pro"] ∧
      o.storage.node? ["keep.pro"] =
        some (.file "# Generated by sealforge from a/../../../keep. Do not modify.\n") := by
  have made := Replays.offer (e := besideRules) (.retention ⟨"a/../../../keep"⟩ [] none) (.nil _)
  have written :
      ((Offer.retention ⟨"a/../../../keep"⟩ [] none).make besideRules).1.refusal = none ∧
      ((Offer.retention ⟨"a/../../../keep"⟩ [] none).make besideRules).2.storage.node?
          ["keep.pro"] =
        some (.file "# Generated by sealforge from a/../../../keep. Do not modify.\n") := by
    decide +kernel
  rw [written.1] at made
  refine ⟨by decide +kernel, _, made, ?_, written.2⟩
  rintro ⟨below, -⟩
  exact absurd below (by decide)

end Concretize
