import Concretize.Console.Field
import Concretize.Console.Level
import Concretize.Console.Style

/-!
# Lines

The line that shows a record. Some events have a format of their own; of the others the message is
shown. A warning or an error is shown even if it has no message.
-/
namespace Concretize.Console

/-- The label of a level, five characters wide. -/
def Level.label : Level → String
  | .error => bold (painted .brightRed "ERROR")
  | .warn => painted .yellow " WARN"
  | .info => painted .brightGreen " INFO"
  | .debug => painted .brightBlue "DEBUG"
  | .trace => painted .brightBlack "TRACE"

/-- The start of a line: the time and the level. -/
def opening (clock : String) (level : Level) : String :=
  painted .brightBlack clock ++ " " ++ level.label ++ " "

/-- A text in a colour; a question mark stands for one that is not known. -/
def known (c : Colour) (s : Option String) : String := painted c (s.getD "?")

/-- A count in a colour; zero stands for one that is not known. -/
def counted (c : Colour) (n : Option Nat) : String := painted c (toString (n.getD 0))

/-- The counts at the end of a pass. -/
def Slots.endText (s : Slots) : String :=
  let failed := s.failed.getD 0
  "generated " ++ bold (counted .brightMagenta s.hierarchies) ++ " hierarchies from " ++
    counted .brightYellow s.generated ++ " declaration(s), " ++ counted .white s.skipped ++
    " skipped, " ++
    (if 0 < failed then bold (painted .brightRed (toString failed))
      else painted .brightGreen (toString failed)) ++
    " failed"

/-- The line of a record whose event has a format of its own. -/
def formattedLine? (clock : String) (level : Level) (s : Slots) (event : String) :
    Option String :=
  let tagged (tag text : String) : String :=
    opening clock level ++ painted .brightCyan tag ++ " " ++ text
  match event with
  | "generate_start" =>
    some (tagged "[Generator]"
      ("generating from " ++ counted .brightYellow s.declarationCount ++ " declaration(s)"))
  | "generate_end" => some (tagged "[Generator]" s.endText)
  | "declaration_skipped" =>
    some ("    " ++ painted .brightBlack "-" ++ " " ++ known .white s.declaration ++
      " has no models, skipped")
  | "output_written" =>
    some ("    " ++ painted .brightBlue "->" ++ " " ++ known .white s.path)
  | "generation_written" =>
    some (tagged "[Output]" ("wrote " ++ counted .brightYellow s.files ++ " file(s)"))
  | "name_collision" =>
    some (tagged "[Generator]"
      (known .white s.declaration ++ " generates " ++ known .brightYellow s.generatedName ++
        " more than once: " ++ s.bindings.getD "?"))
  | "output_overwritten" =>
    some (tagged "[Output]"
      (known .white s.path ++ " was already written, second write refused"))
  | "worker_pool_unavailable" =>
    some (tagged "[Generator]"
      ("no pool of " ++ counted .brightYellow s.threads ++
        " thread(s), processing sequentially: " ++ s.error.getD "?"))
  | _ => none

/-- The line of a record that has no format of its own. -/
def plainLine? (clock : String) (level : Level) (s : Slots) : Option String :=
  match s.message, s.event with
  | some message, _ => some (opening clock level ++ message)
  | none, some event =>
    if level.reaches .warn then
      let details := [s.declaration, s.path, s.error].filterMap id
      some (opening clock level ++ painted .brightCyan event ++
        String.join (details.map (" " ++ ·)))
    else none
  | none, none => none

/-- The line of a record; not every record has one. -/
def line? (clock : String) (level : Level) (s : Slots) : Option String :=
  (s.event.bind (formattedLine? clock level s)).or (plainLine? clock level s)

end Concretize.Console
