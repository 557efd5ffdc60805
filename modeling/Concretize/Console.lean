import Concretize.Console.Filter
import Concretize.Console.Line
import Concretize.Event

/-!
# The console

The events of a pass become records, and those of the program's own targets become lines.
-/
namespace Concretize

namespace Console

/-- What is told to the console: a level, the target it comes from, and fields in the order in which
they were recorded. -/
structure Record where
  level : Level := .info
  target : String
  fields : List (Field × Value)
deriving DecidableEq, Repr

/-- Whether a target is one of the program's own. -/
def isOwnTarget (target : String) : Bool := "sealforge".toList.isPrefixOf target.toList

/-- The line of a record, if it is shown at a clock reading. Without a filter all levels are. -/
def Record.line? (clock : String) (filter : Option Filter) (r : Record) : Option String :=
  if filter.all (·.admits r.target r.level) && isOwnTarget r.target then
    Console.line? clock r.level (({} : Slots).noteAll r.fields)
  else none

/-- The level of a diagnostic. -/
def levelOf : Severity → Level
  | .info => .info
  | .warning => .warn
  | .error => .error

end Console

open Console

/-- The record of an event. -/
def Event.record : Event → Record
  | .passStarted declarations _ =>
    { target := "sealforge_core::generator"
      fields := [(.event, .text "generate_start"), (.declarationCount, .natural declarations)] }
  | .passEnded generated hierarchies skipped failed =>
    { target := "sealforge_core::generator"
      fields := [(.event, .text "generate_end"), (.generated, .natural generated),
        (.hierarchies, .natural hierarchies), (.skipped, .natural skipped),
        (.failed, .natural failed)] }
  | .declarationSkipped declaration =>
    { level := .debug
      target := "sealforge_core::generator"
      fields := [(.event, .text "declaration_skipped"),
        (.declaration, .unquoted declaration.text)] }
  | .declarationFailed diagnostic =>
    { level := .warn
      target := "sealforge_core::generator"
      fields := [(.message, .unquoted diagnostic.display),
        (.event, .text "declaration_failed")] }
  | .emitFailed diagnostic =>
    { level := .warn
      target := "sealforge_core::generator"
      fields := [(.message, .unquoted diagnostic.display), (.event, .text "emit_failed")] }
  | .nameCollision declaration generated bindings =>
    { level := .warn
      target := "sealforge_core::generator"
      fields := [(.event, .text "name_collision"), (.declaration, .unquoted declaration.text),
        (.generated, .unquoted generated.text), (.bindings, .unquoted (listedBindings bindings))] }
  | .outputWritten path _ _ =>
    { level := .debug
      target := "sealforge_render::file_emitter"
      fields := [(.event, .text "output_written"), (.path, .unquoted path)] }
  | .outputOverwritten path =>
    { level := .warn
      target := "sealforge_render::file_emitter"
      fields := [(.event, .text "output_overwritten"), (.path, .unquoted path)] }
  | .diagnosed diagnostic =>
    { level := levelOf diagnostic.severity
      target := "sealforge_render::file_emitter"
      fields := [(.message, .unquoted diagnostic.display), (.event, .text "diagnostic")] }
  | .settingsRejected path error =>
    { level := .warn
      target := "sealforge::generation"
      fields := [(.event, .text "config_invalid"), (.path, .text path),
        (.error, .unquoted error)] }
  | .generationWritten files =>
    { target := "sealforge::generation"
      fields := [(.event, .text "generation_written"), (.files, .natural files)] }

/-- The lines that show events at a clock reading. -/
def Console.linesOf (clock : String) (filter : Option Filter) (events : List Event) :
    List String :=
  events.filterMap fun e => e.record.line? clock filter

end Concretize
