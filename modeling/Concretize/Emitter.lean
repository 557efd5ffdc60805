import Concretize.Event
import Concretize.Retention

/-!
# Emitters

An emitter takes what a pass produces. It is a state `σ` with three operations; each may answer with
events for the log, and the two that take output may refuse it. `Collected` accepts everything.
-/
namespace Concretize

/-- The answer of an emitter that was offered an output. -/
structure Reply where
  /-- Why the output was refused, if it was. -/
  refusal : Option GenerationError := none
  /-- What the emitter told the log meanwhile. -/
  events : List Event := []

/-- A state that takes hierarchies, directives and diagnostics. -/
class Emitter (σ : Type) where
  /-- Offers a hierarchy and the source file it comes from. -/
  emit : Hierarchy → Option String → σ → Reply × σ
  /-- Offers all directives of a declaration. -/
  emitRetention : QualifiedName → List Directive → Option String → σ → Reply × σ
  /-- Hands over a diagnostic. -/
  report : Diagnostic → σ → List Event × σ

/-- Everything a pass produced, in the order in which it came. -/
structure Collected where
  hierarchies : List Hierarchy := []
  retention : List (QualifiedName × List Directive) := []
  diagnostics : List Diagnostic := []
deriving DecidableEq, Repr

namespace Collected

/-- The diagnostics that are errors. -/
def errors (c : Collected) : List Diagnostic :=
  c.diagnostics.filter (·.severity = .error)

/-- The directives of all declarations. -/
def allDirectives (c : Collected) : List Directive :=
  c.retention.flatMap (·.2)

end Collected

instance : Emitter Collected where
  emit h _ c := ({}, { c with hierarchies := c.hierarchies ++ [h] })
  emitRetention source directives _ c :=
    ({}, { c with retention := c.retention ++ [(source, directives)] })
  report d c := ([], { c with diagnostics := c.diagnostics ++ [d] })

end Concretize
