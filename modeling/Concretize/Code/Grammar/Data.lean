import Concretize.Code.DataItem
import Concretize.Code.Grammar.Expressions

/-!
# Rules for structs, unions and enums

Everything after the attributes and the visibility of such an item.
-/
namespace Concretize.Code.Grammar

open Rule

/-- A field without a name. -/
def unnamedField (g : Grammar) : Rule Field :=
  return { attributes := ← g.attributes, visibility := ← visibility, name := none
           type := ← g.type true }

/-- A field with a name. One that is called `_` may have the fields of a struct or union in place of
a type, at most so deep. -/
def namedFieldUpTo (g : Grammar) : Nat → Rule Field
  | 0 => failure
  | n + 1 => do
    let attributes ← g.attributes
    let visibility ← visibility
    let blank ← ahead (Look.word "_")
    let name ← if blank then anyWord else name
    let _ ← op ":"
    let rest ← get
    let type ←
      if blank && (Look.word "struct" rest ||
          (Look.word "union" rest && Look.second (Look.group .curly) rest)) then do
        let keyword ← token
        let (fields, trailing) ← inside .curly (listed Look.nothing (namedFieldUpTo g n))
        pure (.compound ((keyword ++ (Fields.named fields trailing).code).map .token))
      else g.type true
    return { attributes, visibility, name := some name, type }

/-- A field with a name. -/
def namedField (g : Grammar) : Rule Field := do
  namedFieldUpTo g (size (← get) + 1)

/-- Fields without names, in parentheses. -/
def unnamedFields (g : Grammar) : Rule Fields := do
  let (fields, trailing) ← inside .round (listed Look.nothing g.unnamedField)
  return .unnamed fields trailing

/-- Fields with names, in curly brackets. -/
def namedFields (g : Grammar) : Rule Fields := do
  let (fields, trailing) ← inside .curly (listed Look.nothing g.namedField)
  return .named fields trailing

/-- The fields of a variant, often none. -/
def variantFields (g : Grammar) : Rule Fields := do
  let rest ← get
  if Look.group .curly rest then g.namedFields
  else if Look.group .round rest then g.unnamedFields
  else return .unit

/-- A variant of an enum. What is said about its visibility is dropped. -/
def enumVariant (g : Grammar) : Rule EnumVariant := do
  let attributes ← g.attributes
  let _ ← visibility
  let name ← name
  let fields ← g.variantFields
  if ← ahead (Look.op "=") then
    let _ ← op "="
    return { attributes, name, fields, discriminant := some (← g.expression true) }
  return { attributes, name, fields, discriminant := none }

/-- An enum after its attributes and visibility. Empty angle brackets are dropped. -/
def enumRest (g : Grammar) (attributes : List Attribute) (visibility : Visibility) :
    Rule EnumItem := do
  let _ ← word "enum"
  let name ← name
  let parameters ← g.generics
  let limited ← ahead (Look.word "where")
  let conditions ← g.conditions
  let (variants, trailing) ← inside .curly (listed Look.nothing g.enumVariant)
  return { attributes, visibility, name, generic := !parameters.isEmpty || limited
           parameters := parameters ++ conditions, variants, trailing }

/-- A struct after its attributes and visibility. -/
def structItem (g : Grammar) : Rule Code := do
  let front ← word "struct" ++ nameCode ++ g.generics
  let limited ← ahead (Look.word "where")
  let early ← g.conditions
  let rest ← get
  if !limited && Look.group .round rest then
    return front ++ (← g.unnamedFields).code ++ (← g.conditions) ++ (← op ";")
  if Look.group .curly rest then return front ++ early ++ (← g.namedFields).code
  return front ++ early ++ (← op ";")

/-- A union after its attributes and visibility. -/
def unionItem (g : Grammar) : Rule Code := do
  return (← wordCode ++ nameCode ++ g.generics ++ g.conditions) ++ (← g.namedFields).code

end Concretize.Code.Grammar
