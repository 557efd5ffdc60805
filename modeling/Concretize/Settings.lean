import Concretize.Text.Blank

/-!
# Settings

How a pass treats nested placeholders and name collisions, how it is scheduled, and how output is
laid out. Settings read from a file are used only if `Settings.fault?` finds nothing wrong.
-/
namespace Concretize

/-- What to do with a placeholder inside a type argument. -/
inductive NestedPolicy where
  | reject
  | preserve
deriving DecidableEq, Repr

/-- What to do when bindings share a generated name. -/
inductive CollisionPolicy where
  | reject
  | allow
deriving DecidableEq, Repr

/-- How many workers process declarations. -/
inductive Workers where
  | auto
  | sequential
  | count (n : Nat)
deriving DecidableEq, Repr

/-- Whether declarations may be processed at the same time. -/
def Workers.isParallel : Workers → Bool
  | .auto => true
  | .sequential => false
  | .count n => n ≠ 1

/-- The layout of the output. -/
structure Layout where
  /-- The directory of the keep rules, below the output directory. -/
  keepRules : String := "META-INF/proguard"
  indentWidth : Nat := 4
  fileHeader : Bool := true
deriving DecidableEq, Repr

/-- The settings of a pass. -/
structure Settings where
  /-- The annotation that asks for generation, by simple or full name. -/
  trigger : String := "ExtensiveSealed"
  nested : NestedPolicy := .reject
  collisions : CollisionPolicy := .reject
  workers : Workers := .auto
  layout : Layout := {}
deriving DecidableEq, Repr

/-- What makes settings unusable. -/
inductive SettingsFault where
  | blankTrigger
  | noWorkers
  | noIndent
deriving DecidableEq, Repr

/-- The text of a settings fault. -/
def SettingsFault.message : SettingsFault → String
  | .blankTrigger => "Invalid configuration: trigger_annotation must not be empty"
  | .noWorkers => "Invalid configuration: worker_count must be at least 1"
  | .noIndent => "Invalid configuration: output.indent_width must be at least 1"

/-- The first thing wrong with the settings, if any. -/
def Settings.fault? (s : Settings) : Option SettingsFault :=
  if Text.isBlank s.trigger then some .blankTrigger
  else if s.workers = .count 0 then some .noWorkers
  else if s.layout.indentWidth = 0 then some .noIndent
  else none

end Concretize
