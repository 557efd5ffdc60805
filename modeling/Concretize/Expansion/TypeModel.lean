import Concretize.Code.Grammar
import Concretize.TypeRef

/-!
# Types of code as types of declarations

A path whose only arguments are types, all of them on its last segment, becomes a concrete type with
arguments; parentheses do not count. Any other type is kept as one name, the text of its tokens,
which takes the placeholder as an argument if it mentions it, so that a hidden placeholder counts as
nested. `TypeRef.sourceText` goes back to code.
-/
namespace Concretize

/-- The word in code that stands for the payload. -/
def placeholderWord : String := "Extensive"

namespace Code

/-- A type that is kept as the text of its tokens. -/
def verbatimName (code : Code) : TypeName where
  path := ⟨code.text⟩
  arguments := if code.mentions placeholderWord then [.placeholder] else []

/-- Whether a path ends in the word for the payload, without arguments. -/
def namesPlaceholder (segments : List Segment) : Bool :=
  match segments.getLast? with
  | some last => last.name == placeholderWord && last.lacksArguments
  | none => false

/-- The type of a path, given its names and arguments if they are all there is to it. -/
def pathName (leading : Bool) (segments : List Segment) :
    Option (List String × List TypeRef) → TypeName
  | some (names, arguments) =>
    { path := ⟨(if leading then "::" else "") ++ "::".intercalate names⟩, arguments }
  | none => verbatimName (TypeForm.path leading segments).code

mutual

/-- A type that may be the placeholder. -/
def TypeForm.toRef : TypeForm → TypeRef
  | .path leading segments =>
    if namesPlaceholder segments then .placeholder
    else (pathName leading segments (segmentsModel segments)).toRef
  | .paren inner => inner.toRef
  | .compound pieces => (verbatimName (piecesCode pieces)).toRef

/-- The names of a path and the arguments of its last segment, if these are types and no other
segment has any. -/
def segmentsModel : List Segment → Option (List String × List TypeRef)
  | [] => none
  | [s] => s.model
  | s :: rest =>
    if s.lacksArguments then (segmentsModel rest).map fun m => (s.name :: m.1, m.2) else none

/-- The name and the arguments of a segment, if these are types. -/
def Segment.model : Segment → Option (List String × List TypeRef)
  | .plain name => some ([name], [])
  | .applied name _ arguments _ => (argumentsModel arguments).map fun refs => ([name], refs)
  | .called .. => none

/-- Arguments, if they are types. -/
def argumentsModel : List Argument → Option (List TypeRef)
  | [] => some []
  | a :: rest =>
    match a.model, argumentsModel rest with
    | some t, some ts => some (t :: ts)
    | _, _ => none

/-- An argument, if it is a type. -/
def Argument.model : Argument → Option TypeRef
  | .type t => some t.toRef
  | _ => none

end

/-- A type that has to be concrete. -/
def TypeForm.toName : TypeForm → TypeName
  | .path leading segments => pathName leading segments (segmentsModel segments)
  | .paren inner => inner.toName
  | .compound pieces => verbatimName (piecesCode pieces)

end Code

namespace TypeRef

/-- The type as it is written in code. -/
def sourceText : TypeRef → String
  | .placeholder => "::sealforge::" ++ placeholderWord
  | .concrete path arguments _ => path.text ++ argumentsText arguments
where
  /-- The arguments in angle brackets, or nothing when there are none. -/
  argumentsText : List TypeRef → String
    | [] => ""
    | t :: ts => "<" ++ sourceText t ++ restText ts ++ ">"
  /-- The arguments after the first, each after a comma. -/
  restText : List TypeRef → String
    | [] => ""
    | t :: ts => ", " ++ sourceText t ++ restText ts

/-- The type in code, if its text spells one. -/
def toForm? (t : TypeRef) : Option Code.TypeForm := Code.typeOfText? t.sourceText

end TypeRef

end Concretize
