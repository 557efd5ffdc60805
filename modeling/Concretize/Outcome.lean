import Concretize.Retention
import Concretize.Specialization

/-!
# Outcome of one declaration

`Declaration.process` decides what becomes of a declaration, without touching any output. The checks
come in a fixed order: the hierarchy must be closed, there must be a binding, generated names must
not collide, and every variant must have a shape that can be specialized.
-/
namespace Concretize

/-- Everything generated from one declaration. -/
structure Generation where
  /-- One hierarchy per binding, in binding order. -/
  hierarchies : List Hierarchy
  /-- The directives of all hierarchies, in the same order. -/
  directives : List Directive
deriving DecidableEq, Repr

/-- What becomes of a declaration. -/
inductive Outcome where
  | generated (generation : Generation)
  /-- No model was asked for. -/
  | skipped
  | failed (error : GenerationError)
deriving DecidableEq, Repr

/-- Fails unless the hierarchy is closed. -/
def Declaration.requireClosed (d : Declaration) : Except GenerationError Unit :=
  if d.IsClosed then .ok () else .error (.notClosed d.kind d.name)

/-- The error of the first colliding name, if collisions are rejected. -/
def Settings.requireDistinctNames (s : Settings) (d : Declaration) (bindings : List Binding) :
    Except GenerationError Unit :=
  match s.collisions, d.collisions bindings with
  | .reject, c :: _ => .error (.nameCollision d.name c.name c.bindings)
  | _, _ => .ok ()

/-- The hierarchy generated for one binding. -/
def Settings.hierarchy (s : Settings) (d : Declaration) (binding : Binding) :
    Except GenerationError Hierarchy := do
  let variants ← d.specialize binding s.nested
  return d.instantiate binding (d.generatedName binding) variants s.trigger

/-- What is generated from a declaration, or `none` if it has no binding. -/
def Settings.generate? (s : Settings) (d : Declaration) :
    Except GenerationError (Option Generation) := do
  d.requireClosed
  let bindings := d.bindings
  if bindings.isEmpty then return none
  s.requireDistinctNames d bindings
  let hierarchies ← bindings.mapM (s.hierarchy d)
  return some { hierarchies, directives := hierarchies.flatMap Hierarchy.directives }

/-- What becomes of a declaration. -/
def Settings.process (s : Settings) (d : Declaration) : Outcome :=
  match s.generate? d with
  | .ok (some generation) => .generated generation
  | .ok none => .skipped
  | .error e => .failed e

/-- The collisions that the settings tolerate, for the log. -/
def Settings.toleratedCollisions (s : Settings) (d : Declaration) : List Collision :=
  if s.collisions = .allow ∧ d.IsClosed then d.collisions d.bindings else []

end Concretize
