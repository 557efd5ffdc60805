import Concretize.Code.Token

/-!
# Types in code

A type is a path, a type in parentheses, or anything else: references, tuples, function types and
so on are compounds of tokens and of the types between them. `TypeForm.code` writes a type back.
-/
namespace Concretize.Code

mutual

/-- A type in code. -/
inductive TypeForm where
  /-- A path such as `a::B<C>`; `leading` if it begins with `::`. -/
  | path (leading : Bool) (segments : List Segment)
  | paren (inner : TypeForm)
  | compound (pieces : List Piece)

/-- A segment of a path. -/
inductive Segment where
  | plain (name : String)
  /-- A segment with arguments in angle brackets; `turbofish` if `::` stands before them, `trailing`
  if a comma stands after the last one. -/
  | applied (name : String) (turbofish : Bool) (arguments : List Argument) (trailing : Bool)
  /-- A trait with parameter types in parentheses and perhaps a result, such as `Fn(A) -> B`. -/
  | called (name : String) (signature : List Piece)

/-- An argument in angle brackets. -/
inductive Argument where
  | type (t : TypeForm)
  | lifetime (name : String)
  /-- A constant, or something said about an associated item. -/
  | other (pieces : List Piece)

/-- A part of a compound. -/
inductive Piece where
  | token (t : Token)
  | type (t : TypeForm)
  | group (delimiter : Delimiter) (pieces : List Piece)

end

instance : Inhabited TypeForm := ⟨.compound []⟩

/-- The name of a segment. -/
def Segment.name : Segment → String
  | .plain name => name
  | .applied name .. => name
  | .called name _ => name

/-- Whether a segment has no arguments, not even an empty list of them. -/
def Segment.isPlain : Segment → Bool
  | .plain _ => true
  | _ => false

/-- Whether a segment has no arguments, or an empty list of them. -/
def Segment.lacksArguments : Segment → Bool
  | .plain _ => true
  | .applied _ _ arguments _ => arguments.isEmpty
  | .called .. => false

mutual

/-- A type as code. -/
def TypeForm.code : TypeForm → Code
  | .path leading segments =>
    (if leading then ofOperator [':', ':'] else []) ++ segmentsCode segments
  | .paren inner => [.group .round inner.code]
  | .compound pieces => piecesCode pieces

/-- The segments of a path as code. -/
def segmentsCode : List Segment → Code
  | [] => []
  | [s] => s.code
  | s :: rest => s.code ++ ofOperator [':', ':'] ++ segmentsCode rest

/-- A segment as code. -/
def Segment.code : Segment → Code
  | .plain name => [.word name]
  | .applied name turbofish arguments trailing =>
    [.word name] ++ (if turbofish then ofOperator [':', ':'] else []) ++ ofOperator ['<'] ++
      argumentsCode arguments ++ (if trailing then ofOperator [','] else []) ++ ofOperator ['>']
  | .called name signature => .word name :: piecesCode signature

/-- Arguments as code, with commas between them. -/
def argumentsCode : List Argument → Code
  | [] => []
  | [a] => a.code
  | a :: rest => a.code ++ ofOperator [','] ++ argumentsCode rest

/-- An argument as code. -/
def Argument.code : Argument → Code
  | .type t => t.code
  | .lifetime name => [.punct '\'' true, .word name]
  | .other pieces => piecesCode pieces

/-- Parts of a compound as code. -/
def piecesCode : List Piece → Code
  | [] => []
  | p :: rest => p.code ++ piecesCode rest

/-- A part of a compound as code. -/
def Piece.code : Piece → Code
  | .token t => [t]
  | .type t => t.code
  | .group delimiter pieces => [.group delimiter (piecesCode pieces)]

end

end Concretize.Code
