import Concretize.Generation
import Mathlib.Data.Option.Basic

/-!
# Settings that take effect

A generation looks for its settings in one file. The file may be missing, may not be read for any
reason, may not be decoded, or may hold settings that no pass can work with; in each of these cases
the defaults take effect as a whole. What reading the file gave and how its text is decoded are left
open here (`generateReading`).

* `validated_eq_ok_iff`: settings pass the check exactly if a pass can work with them
  (`Settings.Usable`).
* `load_eq_ofReading`, `generate_eq_generateReading`: a generation from storage is the one for what
  reading its settings file gives.
* `generate_settles`: a generation is that of usable settings, either all that the file says or all
  defaults, and differs from it only in what is told to the log.
-/
namespace Concretize

/-! ## Usable settings -/

/-- A pass can work with the settings: the trigger is not blank, there is a worker, and an indent
shows. -/
structure Settings.Usable (s : Settings) : Prop where
  trigger : ∃ c ∈ s.trigger.toList, Text.isSpace c = false
  workers : s.workers ≠ .count 0
  indent : s.layout.indentWidth ≠ 0

namespace Settings

variable {s c : Settings} {refusal e : SettingsError}

theorem fault?_eq_none_iff : s.fault? = none ↔ s.Usable := by
  have blank : Text.isBlank s.trigger = false ↔ ∃ c ∈ s.trigger.toList, Text.isSpace c = false := by
    simp [Text.isBlank]
  unfold fault?
  constructor
  · intro h
    split at h
    · cases h
    split at h
    · cases h
    split at h
    · cases h
    next trigger workers indent => exact ⟨blank.1 (Bool.not_eq_true _ ▸ trigger), workers, indent⟩
  · rintro ⟨trigger, workers, indent⟩
    rw [if_neg (by rw [blank.2 trigger]; exact Bool.false_ne_true), if_neg workers, if_neg indent]

theorem validated_eq_ok_iff : s.validated = .ok c ↔ c = s ∧ s.Usable := by
  rw [← fault?_eq_none_iff, validated]
  cases s.fault? with
  | none => simp [eq_comm]
  | some fault => simp

theorem usable_default : ({} : Settings).Usable := fault?_eq_none_iff.1 (by decide)

theorem ofDecoded_eq_ok_iff {decoded : Option Settings} :
    ofDecoded refusal decoded = .ok c ↔ decoded = some c ∧ c.Usable := by
  cases decoded with
  | none => simp [ofDecoded]
  | some s =>
    rw [ofDecoded, validated_eq_ok_iff, Option.some_inj]
    constructor
    · rintro ⟨rfl, usable⟩
      exact ⟨rfl, usable⟩
    · rintro ⟨rfl, usable⟩
      exact ⟨rfl, usable⟩

/-! ## What reading the file gave -/

/-- Settings from what reading their file gave; a missing file stands for the defaults. -/
def ofReading (decode : String → Option Settings) :
    Except Storage.Fault String → Except SettingsError Settings
  | .ok text => ofDecoded .toml (decode text)
  | .error .notFound => .ok {}
  | .error fault => .error (.storage fault)

/-- The settings that the text of a file describes. -/
def decodeToml (text : String) : Option Settings := (Toml.read text).bind Toml.decodeSettings

/-- What reading the file gave describes the settings. -/
def Decodes (decode : String → Option Settings) (reading : Except Storage.Fault String)
    (s : Settings) : Prop :=
  ∃ text, reading = .ok text ∧ decode text = some s

theorem ofDecoded_ne_storage {decoded : Option Settings} {fault : Storage.Fault} :
    ofDecoded .toml decoded ≠ .error (.storage fault) := by
  cases decoded with
  | none => simp [ofDecoded]
  | some s =>
    rw [ofDecoded, validated]
    cases s.fault? <;> simp

theorem load_eq_ofReading (t : Storage.Tree) (p : Storage.Path) :
    load t p = ofReading decodeToml (t.read p) := by
  unfold load fromFile
  cases t.read p with
  | ok text =>
    dsimp only [ofReading]
    split
    · next h => exact absurd h ofDecoded_ne_storage
    · rfl
  | error fault => cases fault <;> rfl

variable {decode : String → Option Settings} {reading : Except Storage.Fault String}

/-- What the file says takes effect as a whole if a pass can work with it. -/
theorem ofReading_of_decodes (h : Decodes decode reading s) (usable : s.Usable) :
    ofReading decode reading = .ok s := by
  obtain ⟨text, rfl, hs⟩ := h
  exact ofDecoded_eq_ok_iff.2 ⟨hs, usable⟩

/-- Settings that take effect are those of the file, or the defaults in place of a missing file. -/
theorem ofReading_eq_ok (h : ofReading decode reading = .ok c) :
    c.Usable ∧ (Decodes decode reading c ∨ c = {}) := by
  match reading, h with
  | .ok text, h =>
    obtain ⟨decoded, usable⟩ := ofDecoded_eq_ok_iff.1 h
    exact ⟨usable, .inl ⟨text, rfl, decoded⟩⟩
  | .error .notFound, h =>
    cases h
    exact ⟨usable_default, .inr rfl⟩

/-- What the log is told of settings: nothing if they take effect. -/
def notice : Except SettingsError Settings → List Event
  | .ok _ => []
  | .error e => [.settingsRejected settingsPath.text e.message]

end Settings

/-! ## Generations -/

/-- Generates with settings from what reading their file gave. -/
def generateReading (decode : String → Option Settings) (reading : Except Storage.Fault String)
    (manifest out : Storage.Path) (t : Storage.Tree) : GenerationResult :=
  generateLoaded (Settings.ofReading decode reading) manifest out t

theorem generate_eq_generateReading (manifest out : Storage.Path) (t : Storage.Tree) :
    generate manifest out t =
      generateReading Settings.decodeToml (t.read settingsPath) manifest out t := by
  rw [generate, generateReading, Settings.load_eq_ofReading]

/-- **Settings that take effect.** Whatever reading the settings file gave, and however its text is
decoded, there are settings that pass the check such that the generation has their outcome and
leaves their storage; the log is told the same, after a notice of settings that were refused. They
are all that the file says if this passes the check, and all defaults otherwise. Settings read from
TOML, from YAML or from a file are usable. -/
theorem generate_settles (decode : String → Option Settings)
    (reading : Except Storage.Fault String) (manifest out : Storage.Path) (t : Storage.Tree) :
    (∃ c : Settings, c.validated = .ok c ∧ c.Usable ∧
      (∀ s, Settings.Decodes decode reading s → s.Usable → c = s) ∧
      ((∀ s, Settings.Decodes decode reading s → ¬ s.Usable) → c = {}) ∧
      generateReading decode reading manifest out t =
        { c.generate manifest out t with
          events := Settings.notice (Settings.ofReading decode reading) ++
            (c.generate manifest out t).events }) ∧
    generate manifest out t =
      generateReading Settings.decodeToml (t.read settingsPath) manifest out t ∧
    (∀ text s, Settings.readToml text = .ok s ∨ Settings.readYaml text = .ok s → s.Usable) ∧
    ∀ t p s, Settings.fromFile Settings.readToml t p = .ok s ∨ Settings.load t p = .ok s →
      s.Usable := by
  refine ⟨?_, generate_eq_generateReading manifest out t, ?_, ?_⟩
  · unfold generateReading generateLoaded
    cases taken : Settings.ofReading decode reading with
    | ok c =>
      obtain ⟨usable, source⟩ := Settings.ofReading_eq_ok taken
      refine ⟨c, Settings.validated_eq_ok_iff.2 ⟨rfl, usable⟩, usable, fun s decoded hs => ?_,
        fun none => source.resolve_left fun decoded => none c decoded usable, rfl⟩
      rw [Settings.ofReading_of_decodes decoded hs] at taken
      exact (Except.ok.inj taken).symm
    | error e =>
      refine ⟨{}, Settings.validated_eq_ok_iff.2 ⟨rfl, Settings.usable_default⟩,
        Settings.usable_default, fun s decoded hs => ?_, fun _ => rfl, rfl⟩
      rw [Settings.ofReading_of_decodes decoded hs] at taken
      cases taken
  · rintro text s (h | h)
    · exact (Settings.ofDecoded_eq_ok_iff.1 h).2
    · exact (Settings.ofDecoded_eq_ok_iff.1 h).2
  · rintro t p s (h | h)
    · unfold Settings.fromFile at h
      split at h
      · exact (Settings.ofDecoded_eq_ok_iff.1 h).2
      · cases h
    · rw [Settings.load_eq_ofReading] at h
      exact (Settings.ofReading_eq_ok h).1

/-- Two files: one that can be worked with, and one without an indent. -/
def twoFiles (text : String) : Option Settings :=
  match text with
  | "name_collisions = \"allow\"" => some { collisions := .allow }
  | "[output]\nindent_width = 0" => some { layout := { indentWidth := 0 } }
  | _ => none

/-- The generation whose settings file holds a text. -/
def twoFilesGeneration (text : String) : GenerationResult :=
  generateReading twoFiles (.ok text) ⟨"load.json"⟩ ⟨"out"⟩ {}

theorem twoFiles_settles :
    (Settings.Decodes twoFiles (.ok "name_collisions = \"allow\"") { collisions := .allow } ∧
      ({ collisions := .allow } : Settings).Usable) ∧
    (twoFilesGeneration "name_collisions = \"allow\"").outcome =
      (({ collisions := .allow } : Settings).generate ⟨"load.json"⟩ ⟨"out"⟩ {}).outcome ∧
    (∀ s, Settings.Decodes twoFiles (.ok "[output]\nindent_width = 0") s → ¬ s.Usable) ∧
    (twoFilesGeneration "[output]\nindent_width = 0").outcome =
      (({} : Settings).generate ⟨"load.json"⟩ ⟨"out"⟩ {}).outcome ∧
    (Settings.readToml "" = .ok {} ∧ ({} : Settings).Usable) ∧
    (Settings.load {} settingsPath = .ok {} ∧ ({} : Settings).Usable) := by
  have allow : ({ collisions := .allow } : Settings).Usable :=
    Settings.fault?_eq_none_iff.1 (by decide)
  have decodes : Settings.Decodes twoFiles (.ok "name_collisions = \"allow\"")
      { collisions := .allow } := ⟨_, rfl, rfl⟩
  have flat : ∀ s, Settings.Decodes twoFiles (.ok "[output]\nindent_width = 0") s →
      ¬ s.Usable := by
    rintro s ⟨text, ht, hs⟩ usable
    cases ht
    cases hs
    exact usable.indent rfl
  have empty : Settings.readToml "" = .ok {} :=
    Settings.ofDecoded_eq_ok_iff.2 ⟨by decide +kernel, Settings.usable_default⟩
  have missing : Settings.load {} settingsPath = .ok {} := rfl
  obtain ⟨⟨c, -, -, file, -, taken⟩, -, read, -⟩ :=
    generate_settles twoFiles (.ok "name_collisions = \"allow\"") ⟨"load.json"⟩ ⟨"out"⟩ {}
  obtain ⟨⟨c', -, -, -, defaults, refused⟩, -, -, loaded⟩ :=
    generate_settles twoFiles (.ok "[output]\nindent_width = 0") ⟨"load.json"⟩ ⟨"out"⟩ {}
  obtain rfl := file _ decodes allow
  obtain rfl := defaults flat
  refine ⟨⟨decodes, allow⟩, ?_, flat, ?_, ⟨empty, read _ _ (.inl empty)⟩,
    missing, loaded _ _ _ (.inr missing)⟩
  · rw [twoFilesGeneration, taken]
  · rw [twoFilesGeneration, refused]

end Concretize
