/-!
# Readers

A reader takes characters from the front of a text, or refuses it. A reader that is refused has
taken nothing, so that another one can be tried.
-/
namespace Concretize.Text

/-- Takes characters from the front of a text, or refuses it. -/
abbrev Reader (α : Type) := StateT (List Char) Option α

namespace Reader

/-- The next character, which stays. -/
def peek : Reader (Option Char) := do return (← get).head?

/-- The number of characters left. -/
def remaining : Reader Nat := do return (← get).length

/-- Takes the next character; the end of the text is refused. -/
def next : Reader Char := do
  match ← get with
  | [] => failure
  | c :: rest =>
    set rest
    return c

/-- Takes the next character if it is in a class. -/
def one (p : Char → Bool) : Reader Char := do
  let c ← next
  if p c then return c else failure

/-- Takes one given character. -/
def char (c : Char) : Reader Unit := do
  let _ ← one (· = c)

/-- Takes the given characters. -/
def chars (cs : List Char) : Reader Unit := do
  let rest ← get
  if cs.isPrefixOf rest then set (rest.drop cs.length) else failure

/-- Whether the given characters come next; if so, takes them. -/
def accept (cs : List Char) : Reader Bool := do
  let rest ← get
  if cs.isPrefixOf rest then
    set (rest.drop cs.length)
    return true
  else return false

/-- Takes the longest run of characters of a class. -/
def many (p : Char → Bool) : Reader (List Char) := do
  let (taken, rest) := (← get).span p
  set rest
  return taken

/-- Takes the longest run of characters of a class, which must not be empty. -/
def many1 (p : Char → Bool) : Reader (List Char) := do
  let taken ← many p
  if taken.isEmpty then failure else return taken

/-- Takes exactly so many characters of a class. -/
def count (p : Char → Bool) : Nat → Reader (List Char)
  | 0 => return []
  | n + 1 => do
    let c ← one p
    return c :: (← count p n)

/-- Whether the given characters come next; they stay. -/
def comes (cs : List Char) : Reader Bool := do return cs.isPrefixOf (← get)

/-- Takes items until one is refused, but not more than a given number, and joins them. -/
def repeatedUpTo {α : Type} (item : Reader (List α)) : Nat → Reader (List α)
  | 0 => return []
  | n + 1 => (do let a ← item; return a ++ (← repeatedUpTo item n)) <|> return []

/-- Takes items until one is refused, and joins them. Every item takes a character. -/
def repeated {α : Type} (item : Reader (List α)) : Reader (List α) := do
  repeatedUpTo item (← remaining)

/-- The characters that a reader takes. -/
def taken {α : Type} (r : Reader α) : Reader (List Char) := do
  let before ← get
  let _ ← r
  return before.take (before.length - (← get).length)

/-- Refuses whatever is left. -/
def ended : Reader Unit := do
  if (← get).isEmpty then return () else failure

/-- Refuses unless a condition holds. -/
def check (condition : Bool) : Reader Unit := if condition then return () else failure

/-- What a reader finds in a whole text. -/
def readAll {α : Type} (r : Reader α) (text : List Char) : Option α :=
  match StateT.run (do let a ← r; ended; return a) text with
  | some (a, _) => some a
  | none => none

end Reader

end Concretize.Text
