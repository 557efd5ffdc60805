import Concretize.GenerationError

/-!
# Diagnostics

A message about a declaration, with its severity.
-/
namespace Concretize

/-- How serious a diagnostic is. -/
inductive Severity where
  | info
  | warning
  | error
deriving DecidableEq, Repr

/-- The word for a severity. -/
def Severity.label : Severity → String
  | .info => "info"
  | .warning => "warning"
  | .error => "error"

/-- A message about a declaration. -/
structure Diagnostic where
  severity : Severity
  message : String
  declaration : QualifiedName
  kind : Kind
deriving DecidableEq, Repr

namespace Diagnostic

/-- A diagnostic about a declaration. -/
def about (d : Declaration) (severity : Severity) (message : String) : Diagnostic :=
  { severity, message, declaration := d.name, kind := d.kind }

/-- The error diagnostic for a failure of a declaration. -/
def ofError (d : Declaration) (e : GenerationError) : Diagnostic :=
  about d .error e.message

/-- The diagnostic as one line of text. -/
def display (d : Diagnostic) : String :=
  d.severity.label ++ ": " ++ d.message ++ " (in " ++ d.kind.keyword ++ " `" ++
    d.declaration.text ++ "`)"

end Diagnostic

end Concretize
