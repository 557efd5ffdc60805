import Concretize.Binding
import Concretize.Storage.Fault

/-!
# Generation errors

Why a declaration was not specialized, or why an output was refused. `GenerationError.message` is
the text that reports and diagnostics carry.
-/
namespace Concretize

/-- Why a variant cannot be specialized. -/
inductive ShapeFault where
  /-- An object or interface with constructor parameters. -/
  | withParameters (kind : Kind) (count : Nat)
  /-- Neither class nor interface nor object. -/
  | wrongKind (kind : Kind)
deriving DecidableEq, Repr

/-- The text of a shape fault. -/
def ShapeFault.message : ShapeFault → String
  | .withParameters kind count =>
    kind.keyword ++ " declares " ++ toString count ++ " constructor parameter(s)"
  | .wrongKind kind => kind.keyword ++ " is not a class, interface or object"

/-- Why generation failed. -/
inductive GenerationError where
  | notClosed (kind : Kind) (name : QualifiedName)
  | unsupportedShape (declaration : QualifiedName) (variant : String) (fault : ShapeFault)
  | nestedPlaceholder (declaration : QualifiedName) (variant parameter : String) (type : TypeRef)
  | nameCollision (declaration generated : QualifiedName) (bindings : List Binding)
  /-- The output `target` was refused. -/
  | emit (target : String) (cause : Storage.Fault)
  /-- The declarations could not be exchanged. -/
  | manifest (detail : String)
deriving DecidableEq, Repr

/-- Bindings as a collision message lists them. -/
def listedBindings (bindings : List Binding) : String :=
  ", ".intercalate (bindings.map fun b => "(" ++ b.display ++ ")")

namespace GenerationError

/-- The text of an error. -/
def message : GenerationError → String
  | notClosed kind name =>
    kind.keyword ++ " `" ++ name.text ++
      "` cannot be specialized: only a sealed class or sealed interface is supported"
  | unsupportedShape declaration variant fault =>
    "variant `" ++ variant ++ "` of `" ++ declaration.text ++ "` has an unsupported shape: " ++
      fault.message
  | nestedPlaceholder declaration variant parameter type =>
    "parameter `" ++ parameter ++ "` of `" ++ declaration.text ++ "." ++ variant ++
      "` nests the placeholder inside `" ++ type.display ++
      "`; only whole parameter types can be specialized"
  | nameCollision declaration generated bindings =>
    "bindings of `" ++ declaration.text ++ "` generate `" ++ generated.text ++
      "` more than once: " ++ listedBindings bindings
  | emit target cause => "failed to emit `" ++ target ++ "`: " ++ cause.message
  | manifest detail => "declaration manifest error: " ++ detail

/-- The declaration at fault; refused outputs and manifests belong to none. -/
def declaration? : GenerationError → Option QualifiedName
  | notClosed _ name => some name
  | unsupportedShape declaration _ _ => some declaration
  | nestedPlaceholder declaration _ _ _ => some declaration
  | nameCollision declaration _ _ => some declaration
  | emit .. => none
  | manifest _ => none

end GenerationError

end Concretize
