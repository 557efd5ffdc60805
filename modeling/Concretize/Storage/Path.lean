/-!
# Paths

A path keeps the text it was made from. What it means is its list of components: repeated slashes,
`.` in the middle and a slash at the end say nothing. Paths are compared by their components.
-/
namespace Concretize.Storage

/-- Splits a text at every occurrence of a character; the result is never empty. -/
def splitChars (sep : Char) : List Char → List (List Char)
  | [] => [[]]
  | c :: cs =>
    if c = sep then [] :: splitChars sep cs
    else
      match splitChars sep cs with
      | [] => [[c]]
      | head :: tail => (c :: head) :: tail

/-- Splits a text at every occurrence of a character. -/
def splitAt (sep : Char) (s : String) : List String :=
  (splitChars sep s.toList).map String.ofList

/-- One step of a path. -/
inductive Component where
  | root
  /-- A leading `.`. -/
  | current
  | parent
  | normal (name : String)
deriving DecidableEq, Repr

/-- A path, as it was first written. -/
structure Path where
  text : String := ""
deriving DecidableEq, Repr

/-- Components are ordered by form, and names by code points. -/
def Component.rank : Component → Nat
  | .root => 0
  | .current => 1
  | .parent => 2
  | .normal _ => 3

/-- Whether a component comes before another. -/
def Component.before (a b : Component) : Bool :=
  match a, b with
  | .normal m, .normal n => m < n
  | _, _ => a.rank < b.rank

/-- Whether a list of components comes before another, compared one by one. -/
def componentsBefore : List Component → List Component → Bool
  | _, [] => false
  | [], _ :: _ => true
  | a :: as, b :: bs => a.before b || (a = b && componentsBefore as bs)

namespace Path

/-- Whether the path starts at the root. -/
def isAbsolute (p : Path) : Bool := p.text.toList.head? = some '/'

/-- The pieces between slashes. -/
def pieces (p : Path) : List String := splitAt '/' p.text

/-- The component a piece stands for, if it says anything. -/
def component? (piece : String) : Option Component :=
  if piece = "" || piece = "." then none
  else if piece = ".." then some .parent
  else some (.normal piece)

/-- What the path means. -/
def components (p : Path) : List Component :=
  let rest := p.pieces.filterMap component?
  if p.isAbsolute then .root :: rest
  else if p.pieces.head? = some "." then .current :: rest
  else rest

/-- Whether two paths mean the same. -/
def same (p q : Path) : Bool := p.components = q.components

/-- Whether a path comes before another. -/
def before (p q : Path) : Bool := componentsBefore p.components q.components

/-- Appends a piece. A piece that starts with a slash replaces the path; an empty piece only ends
the path with a slash. -/
def push (p : Path) (piece : String) : Path :=
  if piece.toList.head? = some '/' || p.text = "" then ⟨piece⟩
  else if p.text.toList.getLast? = some '/' then ⟨p.text ++ piece⟩
  else ⟨p.text ++ "/" ++ piece⟩

/-- The path `q` seen from `p`. -/
def join (p q : Path) : Path := p.push q.text

/-- Whether a piece says nothing. -/
def isIdle (piece : String) : Bool := piece = "" || piece = "."

/-- Reads pieces from the end: skips idle ones, but never the piece that starts the path. -/
def dropIdle : List String → List String
  | [] => []
  | [first] => [first]
  | piece :: rest => if isIdle piece then dropIdle rest else piece :: rest

/-- The path without its last component, or `none` if it is empty or the root. -/
def parent? (p : Path) : Option Path :=
  match dropIdle p.pieces.reverse with
  | [] => none
  | [first] => if first = "" then none else some {}
  | _ :: rest =>
    match dropIdle rest with
    | [""] => some ⟨"/"⟩
    | kept => some ⟨"/".intercalate kept.reverse⟩

end Path

end Concretize.Storage
