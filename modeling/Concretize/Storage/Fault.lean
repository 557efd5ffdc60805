/-!
# Storage faults

Why a file could not be read or written.
-/
namespace Concretize.Storage

/-- Why an access to storage failed. -/
inductive Fault where
  | notFound
  | notADirectory
  | isADirectory
  | alreadyExists
  | nameTooLong
  /-- The path holds a NUL character. -/
  | interiorNul
  /-- The same pass already wrote this output. -/
  | alreadyWritten
  /-- A cause reported by other storage, with its own text. -/
  | other (text : String)
deriving DecidableEq, Repr

/-- The text of a fault. -/
def Fault.message : Fault → String
  | .notFound => "No such file or directory (os error 2)"
  | .notADirectory => "Not a directory (os error 20)"
  | .isADirectory => "Is a directory (os error 21)"
  | .alreadyExists => "File exists (os error 17)"
  | .nameTooLong => "File name too long (os error 36)"
  | .interiorNul => "file name contained an unexpected NUL byte"
  | .alreadyWritten => "output already written in this pass"
  | .other text => text

end Concretize.Storage
