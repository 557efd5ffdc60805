import Concretize.Storage.Tree
import Concretize.Toml.Decoding
import Concretize.Toml.Document
import Concretize.Yaml.Decoding

/-!
# Settings files

Settings are read from TOML or YAML text and are used only if nothing is wrong with them. A pass
looks for them in one file; where there is none, the defaults hold.
-/
namespace Concretize

/-- Why settings could not be read. -/
inductive SettingsError where
  | storage (fault : Storage.Fault)
  | toml
  | yaml
  | invalid (fault : SettingsFault)
deriving DecidableEq, Repr

/-- The text of a settings error. -/
def SettingsError.message : SettingsError → String
  | .storage fault => "IO error: " ++ fault.message
  | .toml => "TOML parse error: the text does not describe settings"
  | .yaml => "YAML parse error: the text does not describe settings"
  | .invalid fault => fault.message

namespace Settings

/-- Settings with nothing wrong, or what is wrong with them. -/
def validated (s : Settings) : Except SettingsError Settings :=
  match s.fault? with
  | some fault => .error (.invalid fault)
  | none => .ok s

/-- Decoded settings with nothing wrong; `onRefusal` is the error of a text that does not decode. -/
def ofDecoded (onRefusal : SettingsError) : Option Settings → Except SettingsError Settings
  | some s => s.validated
  | none => .error onRefusal

/-- Reads settings from TOML text. -/
def readToml (text : String) : Except SettingsError Settings :=
  ofDecoded .toml ((Toml.read text).bind Toml.decodeSettings)

/-- Reads settings from YAML text. -/
def readYaml (text : String) : Except SettingsError Settings :=
  ofDecoded .yaml ((Yaml.readDocument text).bind Yaml.decodeSettings)

/-- Reads settings from a file, given how its text is read. -/
def fromFile (read : String → Except SettingsError Settings) (t : Storage.Tree)
    (p : Storage.Path) : Except SettingsError Settings :=
  match t.read p with
  | .ok text => read text
  | .error fault => .error (.storage fault)

/-- Reads settings from a TOML file; a missing file stands for the defaults. -/
def load (t : Storage.Tree) (p : Storage.Path) : Except SettingsError Settings :=
  match fromFile readToml t p with
  | .error (.storage .notFound) => .ok {}
  | outcome => outcome

end Settings

end Concretize
