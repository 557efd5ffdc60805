import Concretize.Code.Grammar.Items
import Concretize.Code.Lexing

/-!
# The grammar of code

Ties the rules together: each level of the grammar takes what lies inside from the level below. A
piece of code needs no more levels than a multiple of its tokens, so `grammarFor` always has enough.
-/
namespace Concretize.Code

/-- The grammar over the one for what lies inside. -/
def Grammar.deepened (g : Grammar) : Grammar where
  type := g.anyType
  bound := g.anyBound
  pattern := g.anyPattern
  expression := g.anyExpression
  operand := g.anyOperand
  body := g.anyBody
  statements := g.anyStatements
  item := g.anyItem

/-- The grammar of code that is nested at most so deep. -/
def grammar : Nat → Grammar
  | 0 => .empty
  | n + 1 => (grammar n).deepened

/-- A grammar with enough levels for a piece of code. -/
def grammarFor (code : Code) : Grammar := grammar (4 * code.size + 8)

/-- What a rule of the grammar answers to a whole piece of code. -/
def readWhole {α : Type} (rule : Grammar → Rule α) (code : Code) : Option α :=
  (rule (grammarFor code)).whole? code

/-- The type that code spells. -/
def typeOf? (code : Code) : Option TypeForm := readWhole (·.type true) code

/-- The type that code begins with. -/
def typeBegins? (code : Code) : Option TypeForm :=
  (((grammarFor code).type true).run code).map (·.1)

/-- The type that a text spells. -/
def typeOfText? (text : String) : Option TypeForm := (ofText? text).bind typeOf?

/-- The kind and the name of a type that is not closed, if the definition of one comes next. -/
def extensible? : Code → Option (OpenKind × String)
  | .word "struct" :: .word name :: _ => some (.struct, name)
  | .word "union" :: .word name :: _ => some (.union, name)
  | .word "trait" :: .word name :: _ => some (.trait, name)
  | .word "unsafe" :: rest => extensible? rest
  | .word "auto" :: rest => extensible? rest
  | _ => none

/-- An item after its attributes and visibility, as far as a specialization looks at it. A trait
that ends without a body is another name for other traits. -/
def Grammar.itemOf (g : Grammar) (attributes : List Attribute) (visibility : Visibility) :
    Rule Item := do
  let rest ← get
  if Look.word "enum" rest then return .enumeration (← g.enumRest attributes visibility)
  let code ← g.itemRest visibility.code.isEmpty
  let bodiless := !Look.group .curly (code.drop (code.length - 1))
  match extensible? rest with
  | some (kind, name) =>
    return if kind = .trait && bodiless then .other else .extensible kind visibility name
  | none => return .other

/-- The item that code spells. -/
def itemOf? (code : Code) : Option Item :=
  readWhole (fun g => do
    let attributes ← g.attributes
    let visibility ← Grammar.visibility
    g.itemOf attributes visibility) code

/-- The item that a text spells. -/
def itemOfText? (text : String) : Option Item := (ofText? text).bind itemOf?

/-- The attributes that code spells. -/
def attributesOf? (code : Code) : Option (List Attribute) := readWhole (·.attributes) code

/-- The name that code spells. -/
def nameOf? (code : Code) : Option String := Rule.name.whole? code

end Concretize.Code
