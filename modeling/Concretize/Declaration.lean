import Concretize.TypeRef

/-!
# Declarations

The source side: a closed hierarchy with its variants, their constructor parameters, the annotations
(`Marker`) on all three, and the models asked for (`ModelRequest`).
-/
namespace Concretize

/-- The kind of a type declaration. -/
inductive Kind where
  | klass
  | interface
  /-- A singleton. -/
  | object
  | enumClass
  | enumEntry
  | annotationClass
deriving DecidableEq, Repr, Inhabited

/-- The words for a kind, in messages and in source text. -/
def Kind.keyword : Kind → String
  | .klass => "class"
  | .interface => "interface"
  | .object => "object"
  | .enumClass => "enum class"
  | .enumEntry => "enum entry"
  | .annotationClass => "annotation class"

/-- A declaration modifier. -/
inductive Modifier where
  | isPublic
  | isInternal
  | isProtected
  | isPrivate
  | isSealed
  | isAbstract
  | isOpen
  | isData
  | isValue
  /-- Any other modifier, kept verbatim. -/
  | other (token : String)
deriving DecidableEq, Repr, Inhabited

/-- The modifier as written in source text. -/
def Modifier.keyword : Modifier → String
  | .isPublic => "public"
  | .isInternal => "internal"
  | .isProtected => "protected"
  | .isPrivate => "private"
  | .isSealed => "sealed"
  | .isAbstract => "abstract"
  | .isOpen => "open"
  | .isData => "data"
  | .isValue => "value"
  | .other token => token

/-- One argument of an annotation; positional arguments have no name. -/
structure MarkerArgument where
  name : Option String
  /-- The value in source form. -/
  value : String
deriving DecidableEq, Repr

/-- An annotation applied to a declaration, a variant or a parameter. -/
structure Marker where
  /-- The annotation type. -/
  name : QualifiedName
  /-- The arguments in source order. -/
  arguments : List MarkerArgument := []
deriving DecidableEq, Repr

/-- One slot of a primary constructor. -/
structure Parameter where
  /-- The declared name; positional parameters have none. -/
  name : Option String
  type : TypeRef
  mutable : Bool := false
  markers : List Marker := []
deriving DecidableEq, Repr

/-- The declared name, or `param<index>` for an unnamed parameter. -/
def Parameter.displayName (p : Parameter) (index : Nat) : String :=
  p.name.getD ("param" ++ toString index)

/-- One member of a closed hierarchy. -/
structure Variant where
  /-- The simple name, which specialization never changes. -/
  name : String
  kind : Kind
  modifiers : List Modifier := []
  markers : List Marker := []
  /-- The primary constructor; empty for interfaces and objects. -/
  parameters : List Parameter := []
deriving DecidableEq, Repr

/-- A model asked for by the user: a concrete payload type and a display name, empty if not
given. -/
structure ModelRequest where
  name : String := ""
  type : TypeName
deriving DecidableEq, Repr

/-- A closed sum type with a placeholder payload. -/
structure Declaration where
  name : QualifiedName
  kind : Kind
  modifiers : List Modifier := []
  markers : List Marker := []
  /-- The direct variants in declaration order. -/
  variants : List Variant := []
  /-- The models asked for; `none` when nothing was said about models. -/
  models : Option (List ModelRequest) := none
  /-- The source file that holds the declaration, if any. -/
  origin : Option String := none
deriving DecidableEq, Repr

namespace Declaration

/-- A sealed interface without variants. -/
def sealedInterface (name : String) : Declaration :=
  { name := ⟨name⟩, kind := .interface, modifiers := [.isSealed] }

/-- A sealed class without variants. -/
def sealedClass (name : String) : Declaration :=
  { name := ⟨name⟩, kind := .klass, modifiers := [.isSealed] }

/-- Appends a model, also when nothing was said about models before. -/
def request (d : Declaration) (model : ModelRequest) : Declaration :=
  { d with models := some (d.models.getD [] ++ [model]) }

/-- The simple name. -/
def simpleName (d : Declaration) : String := d.name.simpleName

/-- Whether the hierarchy is closed: a class or interface that is marked sealed. -/
def IsClosed (d : Declaration) : Prop :=
  (d.kind = .klass ∨ d.kind = .interface) ∧ .isSealed ∈ d.modifiers

instance (d : Declaration) : Decidable d.IsClosed :=
  inferInstanceAs (Decidable ((d.kind = .klass ∨ d.kind = .interface) ∧ .isSealed ∈ d.modifiers))

end Declaration

end Concretize
