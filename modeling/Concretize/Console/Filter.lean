import Concretize.Console.Level

/-!
# Filters

A filter gives targets the level down to which their records are shown. A rule holds for every
target that starts with its text; of several such rules the one with the longest text counts.
-/
namespace Concretize.Console

/-- The level down to which the records of some targets are shown. -/
structure Rule where
  target : String
  level : Level
deriving DecidableEq, Repr

/-- Rules for targets. Records of other targets are not shown. -/
abbrev Filter := List Rule

namespace Filter

/-- The filter in use when none is given. -/
def standard : Filter :=
  [⟨"sealforge", .info⟩, ⟨"sealforge_core", .info⟩, ⟨"sealforge_render", .warn⟩]

/-- The rule that counts for a target: the longest that it starts with. -/
def rule? (f : Filter) (target : String) : Option Rule :=
  (f.filter fun r => r.target.toList.isPrefixOf target.toList).foldl (fun best r =>
    match best with
    | some b => if b.target.length < r.target.length then some r else best
    | none => some r) none

/-- Whether the filter lets a record through. -/
def admits (f : Filter) (target : String) (level : Level) : Bool :=
  match f.rule? target with
  | some r => level.reaches r.level
  | none => false

end Filter

end Concretize.Console
