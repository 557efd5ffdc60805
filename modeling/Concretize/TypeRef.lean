import Concretize.QualifiedName

/-!
# Types

A `TypeRef` is the declared type of a constructor parameter: the placeholder that a specialization
replaces, or a concrete type whose arguments are types again. A `TypeName` is a concrete type on its
own, as a binding names it; `TypeName.toRef` and `TypeRef.name?` go between the two.
-/
namespace Concretize

/-- The qualified name under which an unsubstituted placeholder is printed. -/
def placeholderName : String := "sealforge.Extensive"

/-- The declared type of a constructor parameter. -/
inductive TypeRef where
  /-- The payload marker that specialization replaces. -/
  | placeholder
  /-- A path with type arguments; `nullable` admits null. -/
  | concrete (path : QualifiedName) (arguments : List TypeRef) (nullable : Bool)
deriving Repr, Inhabited

mutual

/-- Decides equality of types, by recursion on both trees. -/
def TypeRef.decEq : (s t : TypeRef) → Decidable (s = t)
  | .placeholder, .placeholder => isTrue rfl
  | .placeholder, .concrete .. => isFalse nofun
  | .concrete .., .placeholder => isFalse nofun
  | .concrete p as m, .concrete q bs n =>
    match TypeRef.decEqList as bs with
    | isFalse h => isFalse fun e => h (by cases e; rfl)
    | isTrue h =>
      if hp : p = q ∧ m = n then isTrue (by rw [hp.1, hp.2, h])
      else isFalse fun e => hp (by cases e; exact ⟨rfl, rfl⟩)

/-- Decides equality of lists of types. -/
def TypeRef.decEqList : (ss ts : List TypeRef) → Decidable (ss = ts)
  | [], [] => isTrue rfl
  | [], _ :: _ => isFalse nofun
  | _ :: _, [] => isFalse nofun
  | s :: ss, t :: ts =>
    match TypeRef.decEq s t, TypeRef.decEqList ss ts with
    | isTrue h, isTrue hs => isTrue (by rw [h, hs])
    | isFalse h, _ => isFalse fun e => h (by cases e; rfl)
    | _, isFalse h => isFalse fun e => h (by cases e; rfl)

end

instance : DecidableEq TypeRef := TypeRef.decEq

/-- A concrete type: the path of the type constructor, its arguments, and whether null is
admitted. -/
structure TypeName where
  path : QualifiedName
  arguments : List TypeRef := []
  nullable : Bool := false
deriving DecidableEq, Repr, Inhabited

/-- The type as the declared type of a parameter. -/
def TypeName.toRef (t : TypeName) : TypeRef :=
  .concrete t.path t.arguments t.nullable

namespace TypeRef

/-- The concrete type, or `none` for the placeholder. -/
def name? : TypeRef → Option TypeName
  | .placeholder => none
  | .concrete path arguments nullable => some { path, arguments, nullable }

/-- Whether the type is the placeholder itself. -/
def isPlaceholder : TypeRef → Bool
  | .placeholder => true
  | .concrete .. => false

/-- Whether the placeholder occurs in the type, at the top or at any depth. -/
def mentionsPlaceholder : TypeRef → Bool
  | .placeholder => true
  | .concrete _ arguments _ => anyMentions arguments
where
  /-- Whether some type of the list mentions the placeholder. -/
  anyMentions : List TypeRef → Bool
    | [] => false
    | t :: ts => mentionsPlaceholder t || anyMentions ts

/-- Whether the placeholder occurs inside a type argument. The bare placeholder is not nested. -/
def nestsPlaceholder : TypeRef → Bool
  | .placeholder => false
  | .concrete _ arguments _ => arguments.any mentionsPlaceholder

/-- The path without arguments and nullability, as reflection sees it. -/
def erased : TypeRef → String
  | .placeholder => placeholderName
  | .concrete path _ _ => path.text

/-- The type as messages show it: path, arguments in angle brackets, `?` when nullable. -/
def display : TypeRef → String
  | .placeholder => placeholderName
  | .concrete path arguments nullable =>
    path.text ++ displayArguments arguments ++ (if nullable then "?" else "")
where
  /-- The arguments in angle brackets, or nothing when there are none. -/
  displayArguments : List TypeRef → String
    | [] => ""
    | t :: ts => "<" ++ display t ++ displayRest ts ++ ">"
  /-- The arguments after the first, each after a comma. -/
  displayRest : List TypeRef → String
    | [] => ""
    | t :: ts => ", " ++ display t ++ displayRest ts

end TypeRef

namespace TypeName

/-- The simple name of the type constructor. -/
def simpleName (t : TypeName) : String := t.path.simpleName

/-- Whether the placeholder occurs in an argument, at any depth. -/
def nestsPlaceholder (t : TypeName) : Bool := t.toRef.nestsPlaceholder

/-- The type as messages show it. -/
def display (t : TypeName) : String := t.toRef.display

/-- The path without arguments and nullability. -/
def erased (t : TypeName) : String := t.path.text

end TypeName

end Concretize
