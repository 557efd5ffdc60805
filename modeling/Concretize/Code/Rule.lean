import Concretize.Code.Token

/-!
# Rules

A rule takes tokens from the front of code, or refuses. What it answers is mostly the code it took,
in standard spacing: the characters of one operator joined, all others apart. A `Look` decides from
the tokens ahead which rule applies.
-/
namespace Concretize.Code

/-- Takes tokens from the front of code, or refuses. -/
abbrev Rule (α : Type) := StateT Code Option α

/-- What two rules take, one after the other. -/
instance {α : Type} : Append (Rule (List α)) := ⟨fun p q => do return (← p) ++ (← q)⟩

/-- A property of the tokens ahead. -/
abbrev Look := Code → Bool

namespace Look

/-- A given word comes next. -/
def word (w : String) : Look
  | .word text :: _ => text == w
  | _ => false

/-- The words that never name anything. -/
def keywords : List String :=
  ["_", "abstract", "as", "async", "await", "become", "box", "break", "const", "continue", "crate",
   "do", "dyn", "else", "enum", "extern", "false", "final", "fn", "for", "if", "impl", "in", "let",
   "loop", "macro", "match", "mod", "move", "mut", "override", "priv", "pub", "ref", "return",
   "Self", "self", "static", "struct", "super", "trait", "true", "try", "type", "typeof", "unsafe",
   "unsized", "use", "virtual", "where", "while", "yield"]

/-- A word of any kind comes next. -/
def anyWord : Look
  | .word _ :: _ => true
  | _ => false

/-- A name comes next. -/
def name : Look
  | .word text :: _ => !keywords.contains text
  | _ => false

/-- One of the given words comes next. -/
def oneOf (ws : List String) : Look
  | .word text :: _ => ws.contains text
  | _ => false

/-- Given characters come next, each but the last joined to the next one. -/
def chars : List Char → Look
  | [], _ => true
  | [c], .punct d _ :: _ => c == d
  | c :: cs, .punct d true :: rest => c == d && chars cs rest
  | _, _ => false

/-- An operator comes next, perhaps as the front of a longer one. -/
def op (s : String) : Look := chars s.toList

/-- One of the given operators comes next. -/
def oneOp (ops : List String) : Look := fun code => ops.any fun s => op s code

/-- A lifetime comes next. -/
def lifetime : Look
  | .punct '\'' _ :: .word _ :: _ => true
  | _ => false

/-- A bracketed group comes next. -/
def group (d : Delimiter) : Look
  | .group e _ :: _ => d = e
  | _ => false

/-- A literal comes next: a number may be negative, and the truth values are literals. -/
def literal : Look
  | .literal _ :: _ => true
  | .word text :: _ => text == "true" || text == "false"
  | .punct '-' _ :: .literal text :: _ => (text.toList.head?.map Char.isDigit).getD false
  | _ => false

/-- Nothing comes next. -/
def nothing : Look := List.isEmpty

/-- The tokens after the next one; a lifetime counts as one. -/
def skip : Code → Code
  | .punct '\'' _ :: .word _ :: rest => rest
  | _ :: rest => rest
  | [] => []

/-- A property of the tokens after the next one. -/
def second (p : Look) : Look := fun code => p (skip code)

/-- A property of the tokens after the next two. -/
def third (p : Look) : Look := fun code => p (skip (skip code))

/-- A word that a path can begin with. -/
def pathWord : Look := fun code => name code || oneOf ["super", "self", "Self", "crate"] code

/-- The lone colon that begins a type or bounds. -/
def colon : Look := fun code => op ":" code && !op "::" code

end Look

namespace Rule

/-- Whether the tokens ahead have a property. -/
def ahead (p : Look) : Rule Bool := do return p (← get)

/-- Refuses unless the tokens ahead have a property. -/
def expect (p : Look) : Rule Unit := do
  if p (← get) then return () else failure

/-- Refuses unless a condition holds. -/
def check (condition : Bool) : Rule Unit := if condition then return () else failure

/-- The next token, whatever it is. -/
def token : Rule Code := do
  match ← get with
  | [] => failure
  | t :: rest =>
    set rest
    return [t]

/-- A word of any kind. -/
def anyWord : Rule String := do
  match ← get with
  | .word text :: rest =>
    set rest
    return text
  | _ => failure

/-- A name. -/
def name : Rule String := do
  expect Look.name
  anyWord

/-- A given word. -/
def word (w : String) : Rule Code := do
  expect (Look.word w)
  token

/-- A name as code. -/
def nameCode : Rule Code := do return [.word (← name)]

/-- A word of any kind as code. -/
def wordCode : Rule Code := do return [.word (← anyWord)]

/-- An operator. -/
def op (s : String) : Rule Code := do
  expect (Look.op s)
  modify (·.drop s.length)
  return ofOperator s.toList

/-- The first of the given operators that comes next. -/
def anyOp (ops : List String) : Rule Code := do
  let rest ← get
  match ops.find? fun s => Look.op s rest with
  | some s => op s
  | none => failure

/-- A lifetime. -/
def lifetime : Rule Code := do
  expect Look.lifetime
  return (← token) ++ (← token)

/-- A literal; the sign of a negative number is a token of its own. -/
def literal : Rule Code := do
  expect Look.literal
  if ← ahead (Look.op "-") then return (← op "-") ++ (← token) else token

/-- A bracketed group, whose inside a rule takes whole. -/
def inside {α : Type} (d : Delimiter) (r : Rule α) : Rule α := do
  match ← get with
  | .group e inner :: rest =>
    check (d = e)
    match r.run inner with
    | some (a, []) =>
      set rest
      return a
    | _ => failure
  | _ => failure

/-- A bracketed group as code, whose inside a rule takes whole. -/
def grouped (d : Delimiter) (r : Rule Code) : Rule Code := do
  return [.group d (← inside d r)]

/-- A bracketed group of any kind, taken as it is. -/
def anyGroup : Rule Code := do
  match ← get with
  | .group d inner :: rest =>
    set rest
    return [.group d inner]
  | _ => failure

/-- What a rule takes if the tokens ahead have a property, and nothing otherwise. -/
def maybe {α : Type} (p : Look) (r : Rule (List α)) : Rule (List α) := do
  if ← ahead p then r else return []

/-- A word that may be missing. -/
def optionalWord (w : String) : Rule Code := maybe (Look.word w) (word w)

/-- An operator that may be missing. -/
def optionalOp (s : String) : Rule Code := maybe (Look.op s) (op s)

/-- Repeats a rule while the tokens ahead have a property, at most so many times. -/
def repeatUpTo {α : Type} (p : Look) (r : Rule (List α)) : Nat → Rule (List α)
  | 0 => return []
  | n + 1 => maybe p (r ++ repeatUpTo p r n)

/-- Repeats a rule while the tokens ahead have a property. Each time takes a token. -/
def repeatWhile {α : Type} (p : Look) (r : Rule (List α)) : Rule (List α) := do
  repeatUpTo p r (← get).length

/-- Takes items with separators between them until the tokens ahead say that the list is over, which
may be after a separator; at most so many. -/
def separatedUpTo {α : Type} (ends : Look) (separator item : Rule (List α)) : Nat → Rule (List α)
  | 0 => return []
  | n + 1 => do
    if ← ahead ends then return []
    let first ← item
    if ← ahead ends then return first
    return first ++ (← separator) ++ (← separatedUpTo ends separator item n)

/-- Takes items with separators between them until the tokens ahead say that the list is over. -/
def separated {α : Type} (ends : Look) (separator item : Rule (List α)) : Rule (List α) := do
  separatedUpTo ends separator item ((← get).length + 1)

/-- Takes items, each after the first behind a separator, until the tokens ahead say that the list
is over or no separator comes next; at most so many. -/
def chainUpTo {α : Type} (ends separates : Look) (separator item : Rule (List α)) :
    Nat → Rule (List α)
  | 0 => return []
  | n + 1 => do
    if ← ahead ends then return []
    item ++ maybe separates (separator ++ chainUpTo ends separates separator item n)

/-- Takes items, each after the first behind a separator, until the tokens ahead say that the list
is over or no separator comes next. -/
def chain {α : Type} (ends separates : Look) (separator item : Rule (List α)) :
    Rule (List α) := do
  chainUpTo ends separates separator item ((← get).length + 1)

/-- Items with commas between them until the tokens ahead say that the list is over, and whether a
comma stands after the last; at most so many. -/
def listedUpTo {α : Type} (ends : Look) (item : Rule α) : Nat → Rule (List α × Bool)
  | 0 => return ([], false)
  | n + 1 => do
    if ← ahead ends then return ([], false)
    let first ← item
    if ← ahead ends then return ([first], false)
    let _ ← op ","
    let (rest, trailing) ← listedUpTo ends item n
    return (first :: rest, trailing || rest.isEmpty)

/-- Items with commas between them until the tokens ahead say that the list is over, and whether a
comma stands after the last. -/
def listed {α : Type} (ends : Look) (item : Rule α) : Rule (List α × Bool) := do
  listedUpTo ends item ((← get).length + 1)

/-- Items with commas between them, and perhaps after the last, up to the end. -/
def commas (item : Rule Code) : Rule Code := separated Look.nothing (op ",") item

/-- What a rule answers to a whole piece of code. -/
def whole? {α : Type} (r : Rule α) (code : Code) : Option α :=
  match StateT.run r code with
  | some (a, []) => some a
  | _ => none

end Rule

end Concretize.Code
