import Concretize.Code.Grammar.Types
import Concretize.Code.Literal

/-!
# Rules for patterns

Patterns of parameters, of `let` and of match arms. Where alternatives are admitted they stand
between bars.
-/
namespace Concretize.Code.Grammar

open Rule

/-- A path in an expression or a pattern: its code, and whether a code template can be called by
it. -/
def valuePath (g : Grammar) : Rule (Code × Bool) := do
  if ← ahead (Look.op "<") then return (piecesCode (← g.qualified true), false)
  let (leading, segments) ← g.path true
  return ((TypeForm.path leading segments).code, isBare segments)

/-- The call of a code template comes next, after its path. -/
def isCall : Look := fun code => Look.op "!" code && !Look.op "!=" code

/-- The value of a whole number without a suffix. -/
def index? (literal : String) : Option Nat :=
  let read (base : Nat) (digits : List Char) := Text.readNat? base (digits.filter (· ≠ '_'))
  match literal.toList with
  | '0' :: 'x' :: digits => read 16 digits
  | '0' :: 'o' :: digits => read 8 digits
  | '0' :: 'b' :: digits => read 2 digits
  | digits => read 10 digits

/-- Positions of fields are 32-bit words. -/
def positionLimit : Nat := 4294967296

/-- The position of a field that has no name. -/
def position : Rule Code := do
  match ← get with
  | .literal text :: rest =>
    match index? text with
    | some n =>
      check (n < positionLimit)
      set rest
      return [.literal (toString n)]
    | none => failure
  | _ => failure

/-- A field by its name or its position. -/
def member : Rule Code := do
  if ← ahead Look.name then nameCode else position

/-- Patterns with bars between them. -/
def alternatives (g : Grammar) : Rule Code :=
  optionalOp "|" ++ g.pattern ++ repeatWhile another (op "|" ++ g.pattern)
where
  /-- Another alternative comes next. -/
  another : Look := fun code => Look.op "|" code && !Look.oneOp ["||", "|="] code

/-- The dots of a range. Three dots mean the same as two dots and an equals sign. -/
def rangeDots : Rule Code := do
  if ← ahead (Look.op "...") then
    let _ ← op "..."
    return ofOperator ['.', '.', '=']
  if ← ahead (Look.op "..=") then op "..=" else op ".."

/-- Whether dots admit an open end. -/
def admitsOpenEnd (dots : Code) : Bool := dots.length = 2

/-- Nothing that can bound a range in a pattern comes next. -/
def noBound : Look := fun code =>
  Look.nothing code || Look.oneOp ["|", "=", ",", ";"] code || Look.colon code ||
    Look.word "if" code

/-- A bound of a range in a pattern. -/
def rangeBound (g : Grammar) : Rule Code := do
  let rest ← get
  if Look.literal rest then literal
  else if Look.pathWord rest || Look.oneOp ["::", "<"] rest then return (← g.valuePath).1
  else word "const" ++ g.block

/-- The dots and the end of a range in a pattern. -/
def rangeRest (g : Grammar) : Rule Code := do
  let dots ← rangeDots
  if ← ahead noBound then
    check (admitsOpenEnd dots)
    return dots
  return dots ++ (← g.rangeBound)

/-- A field of a struct in a pattern. -/
def fieldPattern (g : Grammar) : Rule Code := do
  let marks ← optionalWord "box" ++ optionalWord "ref" ++ optionalWord "mut"
  let named ← ahead Look.name
  check (marks.isEmpty || named)
  let field ← member
  if named && (!marks.isEmpty || !(← ahead (Look.op ":"))) then return marks ++ field
  return field ++ (← op ":") ++ (← g.alternatives)

/-- The fields of a struct in a pattern, at most so many. -/
def fieldPatternsUpTo (g : Grammar) : Nat → Rule Code
  | 0 => return []
  | n + 1 => do
    if ← ahead Look.nothing then return []
    let front ← g.attributesCode
    if ← ahead (Look.op "..") then return front ++ (← op "..")
    let field ← g.fieldPattern
    if ← ahead Look.nothing then return front ++ field
    return front ++ field ++ (← op ",") ++ (← fieldPatternsUpTo g n)

/-- A pattern that begins with a path. -/
def pathPattern (g : Grammar) : Rule Code := do
  let (path, callable) ← g.valuePath
  let rest ← get
  if callable && isCall rest then return path ++ (← op "!") ++ (← anyGroup)
  if Look.group .curly rest then
    return path ++ (← grouped .curly do fieldPatternsUpTo g ((← get).length + 1))
  if Look.group .round rest then return path ++ (← grouped .round (commas g.alternatives))
  if Look.op ".." rest then return path ++ (← g.rangeRest)
  return path

/-- A pattern that begins with a name, without a path after it. -/
def bindingPattern (g : Grammar) : Rule Code := do
  let marks ← optionalWord "ref" ++ optionalWord "mut"
  let name ← if ← ahead (Look.word "self") then wordCode else nameCode
  return marks ++ name ++ (← maybe (Look.op "@") (op "@" ++ g.pattern))

/-- A path comes next, and not a mere name. -/
def isPathPattern : Look := fun code =>
  (Look.name code && (Look.second (Look.oneOp ["::", "!", ".."]) code ||
      Look.second (Look.group .curly) code || Look.second (Look.group .round) code)) ||
    (Look.word "self" code && Look.second (Look.op "::") code) ||
    Look.oneOp ["::", "<"] code || Look.oneOf ["Self", "super", "crate"] code

/-- An element of a slice pattern. A range in it needs both ends, unless it is part of another
pattern. -/
def sliceElement (g : Grammar) : Rule Code := do
  let element ← g.alternatives
  check (isRest element || !element.all isLone || !(isDot element.head? || isDot element.getLast?))
  return element
where
  /-- The pattern for all other elements. -/
  isRest : Code → Bool
    | [.punct '.' _, .punct '.' _] => true
    | _ => false
  /-- No token that puts a pattern into another one. -/
  isLone : Token → Bool
    | .punct c _ => c ≠ '@' && c ≠ '|' && c ≠ '&'
    | _ => true
  /-- A dot of a range. -/
  isDot : Option Token → Bool
    | some (.punct '.' _) => true
    | _ => false

/-- A pattern without alternatives. -/
def anyPattern (g : Grammar) : Rule Code := do
  let rest ← get
  if isPathPattern rest then g.pathPattern
  else if Look.word "_" rest then token
  else if Look.word "box" rest then word "box" ++ g.pattern
  else if Look.op "-" rest || Look.literal rest || Look.word "const" rest then
    g.rangeBound ++ maybe (Look.op "..") g.rangeRest
  else if Look.name rest || Look.oneOf ["ref", "mut", "self"] rest then g.bindingPattern
  else if Look.op "&" rest then op "&" ++ optionalWord "mut" ++ g.pattern
  else if Look.group .round rest then grouped .round (commas g.alternatives)
  else if Look.group .square rest then grouped .square (commas g.sliceElement)
  else
    check !(Look.op "..." rest)
    g.rangeRest

end Concretize.Code.Grammar
