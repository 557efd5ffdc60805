import Concretize.Code.Literal

/-!
# Reading tokens from a text

Comments and blanks separate tokens and vanish, except that a documentation comment stands for the
attribute `doc`. Brackets have to match. `Code.ofText?` reads a whole text.
-/
namespace Concretize.Code

open Text Text.Reader

namespace Lexing

/-- White space in code: the two direction marks count as well. -/
def isBlank (c : Char) : Bool := isSpace c || c = '\u200E' || c = '\u200F'

/-- The rest of a line, without its end. A carriage return belongs to the end. -/
def line : Reader (List Char) := do
  let text ← many (· ≠ '\n')
  return if text.getLast? = some '\r' && (← peek).isSome then text.dropLast else text

/-- The rest of a block comment after its opening, up to the closing of the same depth: what stands
before the closing, and what follows it. -/
def blockRest : Nat → List Char → Option (List Char × List Char)
  | 0, '*' :: '/' :: cs => some ([], cs)
  | depth + 1, '*' :: '/' :: cs =>
    (blockRest depth cs).map fun (text, rest) => ('*' :: '/' :: text, rest)
  | depth, '/' :: '*' :: cs =>
    (blockRest (depth + 1) cs).map fun (text, rest) => ('/' :: '*' :: text, rest)
  | depth, c :: cs => (blockRest depth cs).map fun (text, rest) => (c :: text, rest)
  | _, [] => none

/-- A block comment: what stands between its opening and its closing. -/
def block : Reader (List Char) := do
  chars ['/', '*']
  match blockRest 0 (← get) with
  | some (text, rest) =>
    set rest
    return text
  | none => failure

/-- Whether the next comment, if there is one, documents something. -/
def documents : Reader Bool := do
  if ← comes ['/', '*', '*', '/'] then return false
  if (← comes ['/', '/', '!']) || (← comes ['/', '*', '!']) then return true
  return ((← comes ['/', '/', '/']) && !(← comes ['/', '/', '/', '/'])) ||
    ((← comes ['/', '*', '*']) && !(← comes ['/', '*', '*', '*']))

/-- A comment that documents nothing. -/
def comment : Reader Unit := do
  check (!(← documents))
  if ← accept ['/', '/'] then let _ ← line
  else let _ ← block

/-- Blanks and comments that document nothing. -/
def skipBlank : Reader Unit := do
  let _ ← repeated (α := Unit) ((do let _ ← one isBlank; return []) <|> (do comment; return []))

/-- Whether every carriage return of a text is followed by a line feed. -/
def endsLinesWell : List Char → Bool
  | [] => true
  | '\r' :: '\n' :: cs => endsLinesWell cs
  | '\r' :: _ => false
  | _ :: cs => endsLinesWell cs

/-- A comment that documents the code after it or, with an exclamation mark, around it. -/
def docComment : Reader Code := do
  check (← documents)
  let inner := (← comes ['/', '/', '!']) || (← comes ['/', '*', '!'])
  let text ← if ← comes ['/', '/'] then do chars ['/', '/']; line else block
  let text := text.drop 1
  check (endsLinesWell text)
  let doc := .group .square [.word "doc", .punct '=' false, Literal.ofText text]
  return if inner then [.punct '#' false, .punct '!' false, doc] else [.punct '#' false, doc]

/-- The characters that operators are made of. -/
def punctuation : List Char :=
  ['~', '!', '@', '#', '$', '%', '^', '&', '*', '-', '=', '+', '|', ';', ':', ',', '<', '.', '>',
   '/', '?', '\'']

/-- A character of an operator, which does not open a comment. -/
def punctChar : Reader Char := do
  check (!(← comes ['/', '/']) && !(← comes ['/', '*']))
  one punctuation.contains

/-- A name that is not raw. -/
def name : Reader (List Char) := do
  let first ← one isNameStart
  return first :: (← many isNameContinue)

/-- The mark of a raw name. -/
def rawMark : List Char := ['r', '#']

/-- The names that cannot be raw. -/
def neverRaw : List String := ["_", "super", "self", "Self", "crate"]

/-- A name, plain or raw. -/
def anyName : Reader (List Char) := do
  if ← accept rawMark then
    let text ← name
    check (!neverRaw.contains (String.ofList text))
    return rawMark ++ text
  else name

/-- What looks like a name but can only begin a string or a byte. -/
def literalMarks : List (List Char) :=
  [['r', '"'], ['r', '#', '"'], ['r', '#', '#'], ['b', '"'], ['b', '\''], ['b', 'r', '"'],
   ['b', 'r', '#'], ['c', '"'], ['c', 'r', '"'], ['c', 'r', '#']]

/-- An identifier or keyword. -/
def word : Reader Token := do
  let rest ← get
  check (!literalMarks.any (·.isPrefixOf rest))
  return .word (String.ofList (← anyName))

/-- What follows the quote that marks a lifetime: a name that no quote closes. -/
def lifetimeName : Reader Unit := do
  let raw ← comes rawMark
  let _ ← anyName
  match ← peek with
  | some '\'' => failure
  | some '#' => check raw
  | _ => return ()

/-- One character of an operator, or the quote of a lifetime. -/
def punct : Reader Token := do
  let c ← punctChar
  let rest ← get
  if c = '\'' then
    lifetimeName
    set rest
    return .punct c true
  else
    let joint := (punctChar.run rest).isSome
    return .punct c joint

/-- A token without brackets. -/
def leaf : Reader Token :=
  (do return .literal (String.ofList (← Literal.read))) <|> punct <|> word

/-- Tokens between two brackets, given what takes them. -/
def enclosed (inner : Reader Code) (d : Delimiter) (opening closing : Char) : Reader Code := do
  char opening
  let inner ← inner
  char closing
  return [.group d inner]

/-- Tokens up to the end of the text or a closing bracket, at most so many. -/
def tokens : Nat → Reader Code
  | 0 => return []
  | n + 1 => do
    skipBlank
    match ← peek with
    | none => return []
    | some c =>
      if c = ')' || c = ']' || c = '\x7d' then return []
      let first ← docComment <|> (do return [← leaf]) <|>
        enclosed (tokens n) .round '(' ')' <|> enclosed (tokens n) .square '[' ']' <|>
        enclosed (tokens n) .curly '\x7b' '\x7d'
      return first ++ (← tokens n)

end Lexing

/-- The tokens of a text, or `none` if it is not code. A byte order mark in front is ignored. -/
def ofText? (text : String) : Option Code :=
  let cs := text.toList
  let cs := if cs.head? = some '\uFEFF' then cs.tail else cs
  readAll (Lexing.tokens (cs.length + 1)) cs

end Concretize.Code
