import Concretize.Dependencies
import Concretize.Manifest
import Concretize.Pass
import Concretize.SettingsFile

/-!
# Generation from files to files

Reads the declarations of a manifest file, runs a pass over them that writes into an output
directory, and records there what every file depends on.
-/
namespace Concretize

/-- The file that settings are looked for in. -/
def settingsPath : Storage.Path := ⟨"sealforge.toml"⟩

/-- The name of the record of dependencies in the output directory. -/
def dependenciesName : String := "sealforge-dependencies.json"

/-- Why generation failed as a whole. -/
inductive GenerationFault where
  | output (error : OutputError)
  /-- The manifest at a path could not be read. -/
  | manifest (path : Storage.Path) (category : Json.Category)
deriving DecidableEq, Repr

/-- What became of a generation: the report or a fault, what was told meanwhile, and the storage
after it. -/
structure GenerationResult where
  outcome : Except GenerationFault Report
  events : List Event := []
  storage : Storage.Tree

/-- Reads a manifest from a file. -/
def Manifest.fromFile (t : Storage.Tree) (p : Storage.Path) : Except GenerationFault Manifest :=
  match t.read p with
  | .error fault => .error (.output (.storage p fault))
  | .ok text =>
    match Manifest.read text with
    | .ok m => .ok m
    | .error category => .error (.manifest p category)

/-- The event of a step, if it is one. -/
def Step.event? : Step → Option Event
  | .event e => some e
  | _ => none

/-- Generates from a manifest file into an output directory. -/
def Settings.generate (s : Settings) (manifest out : Storage.Path) (t : Storage.Tree) :
    GenerationResult :=
  match Manifest.fromFile t manifest with
  | .error fault => { outcome := .error fault, storage := t }
  | .ok m =>
    let run := s.run m.declarations ({ root := out, layout := s.layout, storage := t } : Output)
    let events := run.steps.filterMap Step.event?
    let (written, refused) := run.emitter.writeDependencies (out.push dependenciesName)
    match refused with
    | some e => { outcome := .error (.output e), events, storage := written.storage }
    | none =>
      { outcome := .ok run.value
        events := events ++ [.generationWritten written.records.length]
        storage := written.storage }

/-- Generates with settings as they were loaded. Settings that cannot be read are told to the log,
and the defaults take their place. -/
def generateLoaded (loaded : Except SettingsError Settings) (manifest out : Storage.Path)
    (t : Storage.Tree) : GenerationResult :=
  match loaded with
  | .ok s => s.generate manifest out t
  | .error e =>
    let result := ({} : Settings).generate manifest out t
    { result with events := .settingsRejected settingsPath.text e.message :: result.events }

/-- Generates with the settings of the settings file. -/
def generate (manifest out : Storage.Path) (t : Storage.Tree) : GenerationResult :=
  generateLoaded (Settings.load t settingsPath) manifest out t

end Concretize
