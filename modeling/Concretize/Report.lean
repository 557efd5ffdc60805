import Concretize.GenerationError

/-!
# Reports

What a pass did with each declaration, in input order, and the counts drawn from it.
-/
namespace Concretize

/-- What a pass did with one declaration. -/
inductive Status where
  /-- The names that were accepted, the number of directives, and the number of refused outputs. -/
  | generated (hierarchies : List QualifiedName) (directives refusals : Nat)
  | skipped
  | failed (error : GenerationError)
deriving DecidableEq, Repr

/-- One line of a report. -/
structure ReportEntry where
  declaration : QualifiedName
  status : Status
deriving DecidableEq, Repr

/-- The summary of a pass: one entry per declaration. -/
structure Report where
  entries : List ReportEntry := []
deriving DecidableEq, Repr

namespace Status

/-- Whether hierarchies were generated, refused ones included. -/
def isGenerated : Status → Bool
  | generated .. => true
  | _ => false

/-- Whether there was nothing to do. -/
def isSkipped : Status → Bool
  | skipped => true
  | _ => false

/-- Whether the declaration failed. -/
def isFailed : Status → Bool
  | failed _ => true
  | _ => false

/-- The number of accepted hierarchies. -/
def hierarchyCount : Status → Nat
  | generated hierarchies _ _ => hierarchies.length
  | _ => 0

/-- Whether anything went wrong: a failure, or a refused output. -/
def isTroubled : Status → Bool
  | generated _ _ refusals => 0 < refusals
  | skipped => false
  | failed _ => true

end Status

namespace Report

/-- The position of the first entry of a declaration, by its full name. -/
def position? (r : Report) (name : String) : Option Nat :=
  r.entries.findIdx? (·.declaration.text == name)

/-- The number of declarations for which something was generated. -/
def generatedCount (r : Report) : Nat := r.entries.countP (·.status.isGenerated)

/-- The number of declarations without models. -/
def skippedCount (r : Report) : Nat := r.entries.countP (·.status.isSkipped)

/-- The number of declarations that failed. -/
def failedCount (r : Report) : Nat := r.entries.countP (·.status.isFailed)

/-- The number of accepted hierarchies. -/
def hierarchyCount (r : Report) : Nat := 
  r.entries.foldr (fun e n => e.status.hierarchyCount + n) 0

/-- Whether anything went wrong. -/
def hasErrors (r : Report) : Bool := r.entries.any (·.status.isTroubled)

/-- The failures, with the declarations they belong to. -/
def errors (r : Report) : List (QualifiedName × GenerationError) :=
  r.entries.filterMap fun e =>
    match e.status with
    | .failed error => some (e.declaration, error)
    | _ => none

end Report

end Concretize
