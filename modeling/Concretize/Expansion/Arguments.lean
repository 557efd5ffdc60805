import Concretize.Declaration
import Concretize.Expansion.TypeModel

/-!
# Models asked for in code

The arguments of the attribute `extensive_sealed`: a list of `model(ty = Type, name = "display")`
entries. In an entry the two settings come in any order, the name may be missing, and of a setting
that is given twice the last one counts.
-/
namespace Concretize.Expansion

open Code

/-- Why arguments were refused. -/
inductive ArgumentError where
  /-- They are not code, or not of the form of a list of entries. -/
  | unreadable
  | notModel
  | unknownKey (key : String)
  | missingType
deriving DecidableEq, Repr

/-- The text of an error; the text for unreadable code is left to whoever shows the code. -/
def ArgumentError.message : ArgumentError → String
  | .unreadable => "unreadable arguments"
  | .notModel => "expected \x60model(ty = Type)\x60 or \x60model(ty = Type, name = \"...\")\x60"
  | .unknownKey key =>
    "unknown model key \x60" ++ key ++ "\x60; expected \x60ty\x60 or \x60name\x60"
  | .missingType => "model is missing \x60ty = Type\x60"

/-- Takes tokens from the front of arguments, or tells what is wrong with them. -/
abbrev ArgumentRule (α : Type) := StateT Code (Except ArgumentError) α

/-- A rule of code whose refusal makes the arguments unreadable. -/
def required {α : Type} (rule : Rule α) : ArgumentRule α := do
  match rule.run (← get) with
  | some (a, rest) =>
    set rest
    return a
  | none => throw .unreadable

/-- Whether nothing is left. -/
def ended : ArgumentRule Bool := do return (← get).isEmpty

/-- Goes over items with commas between them, and perhaps after the last, up to the end; at most so
many. Each item turns what is known into what is known after it. -/
def overCommas {σ : Type} (item : σ → ArgumentRule σ) : Nat → σ → ArgumentRule σ
  | 0, s => return s
  | n + 1, s => do
    if ← ended then return s
    let s ← item s
    if ← ended then return s
    let _ ← required (Rule.op ",")
    overCommas item n s

/-- An entry of the arguments. -/
structure ModelArgument where
  type : TypeForm
  name : Option String

/-- The model that an entry asks for. -/
def ModelArgument.request (a : ModelArgument) : ModelRequest :=
  { name := a.name.getD "", type := a.type.toName }

/-- What an entry has said so far. -/
structure Entry where
  type : Option TypeForm := none
  name : Option String := none

/-- A literal that spells a text. -/
def text : Rule String := do
  match ← get with
  | .literal literal :: rest =>
    match Literal.textValue? literal with
    | some value =>
      set rest
      return value
    | none => failure
  | _ => failure

/-- One setting of an entry. -/
def setting (g : Grammar) (e : Entry) : ArgumentRule Entry := do
  let key ← required Rule.name
  let _ ← required (Rule.op "=")
  if key = "ty" then return { e with type := some (← required (g.type true)) }
  if key = "name" then return { e with name := some (← required text) }
  throw (.unknownKey key)

/-- The inside of an entry. -/
def entryContent (g : Grammar) (inner : Code) : Except ArgumentError ModelArgument := do
  let (e, _) ← (overCommas (setting g) (inner.length + 1) {}).run inner
  match e.type with
  | some type => return { type, name := e.name }
  | none => throw .missingType

/-- An entry. -/
def entry (g : Grammar) : ArgumentRule ModelArgument := do
  let keyword ← required Rule.name
  if keyword ≠ "model" then throw .notModel
  match ← get with
  | .group .round inner :: rest =>
    let argument ← entryContent g inner
    set rest
    return argument
  | _ => throw .unreadable

/-- One more entry. -/
def furtherEntry (g : Grammar) (known : List ModelArgument) :
    ArgumentRule (List ModelArgument) := do
  return known ++ [← entry g]

/-- The entries that code spells. -/
def argumentsOf (code : Code) : Except ArgumentError (List ModelArgument) := do
  let (entries, _) ← (overCommas (furtherEntry (grammarFor code)) (code.length + 1) []).run code
  return entries

/-- The models that code asks for. -/
def modelsOf (code : Code) : Except ArgumentError (List ModelRequest) := do
  return (← argumentsOf code).map ModelArgument.request

/-- The models that a text asks for. -/
def modelsOfText (text : String) : Except ArgumentError (List ModelRequest) :=
  match Code.ofText? text with
  | some code => modelsOf code
  | none => throw .unreadable

end Concretize.Expansion
