/-!
# Qualified names

A qualified name is a text such as `com.example.UIState` or `app::state::UiState`. Both `.` and
`::` separate segments; the one that starts last splits the package from the simple name. Names are
never normalized: the separators stay as written.
-/
namespace Concretize

/-- What stands between two segments of a qualified name. -/
inductive Separator where
  | dot
  | colons
deriving DecidableEq, Repr

/-- The separator as written. -/
def Separator.chars : Separator → List Char
  | .dot => ['.']
  | .colons => [':', ':']

/-- A name taken apart at its last separator. -/
structure NameSplit where
  package : List Char
  separator : Separator
  simple : List Char
deriving DecidableEq, Repr

/-- Splits a name at the separator that starts last, or `none` if it has no separator. -/
def splitName : List Char → Option NameSplit
  | [] => none
  | c :: rest =>
    match splitName rest with
    | some s => some { s with package := c :: s.package }
    | none =>
      match c, rest with
      | '.', _ => some ⟨[], .dot, rest⟩
      | ':', ':' :: simple => some ⟨[], .colons, simple⟩
      | _, _ => none

/-- Replaces every `::` by `.`, from left to right. -/
def dotted : List Char → List Char
  | ':' :: ':' :: rest => '.' :: dotted rest
  | c :: rest => c :: dotted rest
  | [] => []

/-- A fully qualified declaration name, kept as written. -/
structure QualifiedName where
  text : String
deriving DecidableEq, Repr, Inhabited

namespace QualifiedName

instance : ToString QualifiedName := ⟨text⟩

/-- The last segment. -/
def simpleName (n : QualifiedName) : String :=
  match splitName n.text.toList with
  | some s => String.ofList s.simple
  | none => n.text

/-- Everything before the last separator, or `none` for a top-level name. -/
def package? (n : QualifiedName) : Option String :=
  (splitName n.text.toList).map fun s => String.ofList s.package

/-- The name in the same package, after the same separator, with another simple name. -/
def sibling (n : QualifiedName) (simple : String) : QualifiedName :=
  match splitName n.text.toList with
  | some s => ⟨String.ofList (s.package ++ s.separator.chars ++ simple.toList)⟩
  | none => ⟨simple⟩

/-- The binary name of a member nested in this type. -/
def memberBinaryName (n : QualifiedName) (member : String) : String :=
  n.text ++ "$" ++ member

/-- Whether `name` is the full name or the simple name. -/
def answersTo (n : QualifiedName) (name : String) : Bool :=
  n.text == name || n.simpleName == name

/-- The full name with `.` as the only separator. -/
def dottedText (n : QualifiedName) : String :=
  String.ofList (dotted n.text.toList)

/-- The package with `.` as the only separator. -/
def dottedPackage? (n : QualifiedName) : Option String :=
  n.package?.map fun p => String.ofList (dotted p.toList)

end QualifiedName

end Concretize
