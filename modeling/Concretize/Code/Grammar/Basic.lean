import Concretize.Code.Attribute
import Concretize.Code.Rule
import Concretize.Code.TypeForm

/-!
# The shape of the grammar

Types, patterns, expressions, statements and items contain each other. Each rule takes a `Grammar`,
the rules for what lies inside, so that no rule is recursive beyond its own lists; the grammar of
all code is tied from these rules at the end. Rules that are shared stand here: paths without
arguments, attributes, visibility and blocks.
-/
namespace Concretize.Code

/-- What has to be known of an expression to go on after it. -/
inductive Shape where
  /-- It ends in a block, so that a statement or a match arm can end with it. -/
  | block
  /-- A call of a code template with curly brackets. -/
  | curlyCall
  | range
  | comparison
  | other
deriving DecidableEq

/-- An expression as code, with its shape. -/
structure Term where
  shape : Shape
  code : Code

/-- Rules for what lies inside other code. -/
structure Grammar where
  /-- A type; `plus` if bounds may be added to it. -/
  type (plus : Bool) : Rule TypeForm
  /-- A bound; `captures` and `constants` tell which kinds of it are admitted. -/
  bound (captures constants : Bool) : Rule (List Piece)
  pattern : Rule Code
  /-- An expression; `literals` if a struct literal may stand in it. -/
  expression (literals : Bool) : Rule Code
  /-- An expression without binary operators. -/
  operand (literals : Bool) : Rule Term
  /-- An expression as a statement or a match arm: one that begins with a block ends with it. -/
  body : Rule Term
  /-- The inside of a block. -/
  statements : Rule Code
  item : Rule Code

/-- The grammar of nothing. -/
def Grammar.empty : Grammar where
  type _ := failure
  bound _ _ := failure
  pattern := failure
  expression _ := failure
  operand _ := failure
  body := failure
  statements := failure
  item := failure

namespace Grammar

open Rule

/-- Names between `::`, at most so many. -/
def namesUpTo : Nat → Rule (List String)
  | 0 => failure
  | n + 1 => do
    expect Look.pathWord
    let first ← anyWord
    if ← ahead (Look.op "::") then
      let _ ← op "::"
      return first :: (← namesUpTo n)
    return [first]

/-- A path without arguments. -/
def modPath : Rule ModPath := do
  let leading ← optionalOp "::"
  return { leading := !leading.isEmpty, names := ← namesUpTo (← get).length }

/-- The value of an attribute: a lone literal, or an expression. -/
def attributeValue (g : Grammar) : Rule Code := do
  let rest ← get
  match literal.run rest with
  | some (code, []) =>
    set ([] : Code)
    return code
  | _ =>
    check !(Look.op "#" rest && Look.second (Look.group .square) rest)
    g.expression true

/-- The inside of an attribute. -/
def attributeContent (g : Grammar) : Rule Attribute := do
  let path : ModPath ←
    if ← ahead (Look.word "unsafe") then do pure { names := [← anyWord] } else modPath
  match ← get with
  | .group delimiter tokens :: rest =>
    set rest
    return { path, form := .list delimiter tokens }
  | _ =>
    if ← ahead (Look.op "=") then
      let _ ← op "="
      return { path, form := .value (← g.attributeValue) }
    return { path, form := .bare }

/-- Attributes of the code after them. -/
def attributes (g : Grammar) : Rule (List Attribute) :=
  repeatWhile (Look.op "#") do
    let _ ← op "#"
    return [← inside .square g.attributeContent]

/-- Attributes of the code after them, as code. -/
def attributesCode (g : Grammar) : Rule Code := do return Attribute.listCode (← g.attributes)

/-- Attributes of the code around them. -/
def innerAttributes (g : Grammar) : Rule Code :=
  repeatWhile (fun code => Look.op "#" code && Look.second (Look.op "!") code)
    (op "#" ++ op "!" ++ grouped .square do return (← g.attributeContent).content)

/-- A block, with attributes at its beginning. -/
def block (g : Grammar) : Rule Code := grouped .curly (g.innerAttributes ++ g.statements)

/-- Whether the brackets after `pub` restrict it to one of three places. -/
def isPlace : Code → Bool
  | [.word w] => w == "crate" || w == "self" || w == "super"
  | _ => false

/-- Who may use what comes next. -/
def visibility : Rule Visibility := do
  if !(← ahead (Look.word "pub")) then return .inherited
  let _ ← token
  match ← get with
  | .group .round inner :: _ =>
    if isPlace inner then
      return .restricted false { names := [← inside .round anyWord] }
    if Look.word "in" inner then
      return .restricted true (← inside .round do let _ ← token; modPath)
    return .everyone
  | _ => return .everyone

/-- Who may use what comes next, as code. -/
def visibilityCode : Rule Code := do return (← visibility).code

end Grammar

end Concretize.Code
