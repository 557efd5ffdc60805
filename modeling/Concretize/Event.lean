import Concretize.Diagnostic
import Concretize.Settings

/-!
# Events

What a pass tells its log. An event is data; how it is shown is the business of the console.
-/
namespace Concretize

/-- Something worth telling about a pass. -/
inductive Event where
  | passStarted (declarations : Nat) (workers : Workers)
  | passEnded (generated hierarchies skipped failed : Nat)
  | declarationSkipped (declaration : QualifiedName)
  | declarationFailed (diagnostic : Diagnostic)
  | emitFailed (diagnostic : Diagnostic)
  | nameCollision (declaration generated : QualifiedName) (bindings : List Binding)
  /-- An output was written at a path below the output directory. -/
  | outputWritten (path : String) (bytes : Nat) (aggregating : Bool)
  /-- A second output for the same path was refused. -/
  | outputOverwritten (path : String)
  /-- A diagnostic reached the files of a pass. -/
  | diagnosed (diagnostic : Diagnostic)
  | settingsRejected (path error : String)
  | generationWritten (files : Nat)
deriving DecidableEq, Repr

end Concretize
