import Concretize.Text.Digits

/-!
# Cursors

A place in a text, with the line and the column that block structure is decided by.
-/
namespace Concretize.Yaml

/-- A place in a text, counted in characters from zero. -/
structure Cursor where
  rest : List Char
  index : Nat := 0
  line : Nat := 0
  column : Nat := 0

/-- Takes characters from a cursor, or refuses the text. -/
abbrev Scan (α : Type) := StateT Cursor Option α

/-! ## Characters -/

/-- Characters that a text may hold. -/
def isAllowed (c : Char) : Bool :=
  c = '\t' || c = '\n' || c = '\r' || (' ' ≤ c && c ≤ '~') || c = '\x85' ||
    ('\xa0' ≤ c && c ≤ '\uFFFD') || 0x10000 ≤ c.toNat

/-- Line breaks. -/
def isBreak (c : Char) : Bool :=
  c = '\n' || c = '\r' || c = '\x85' || c = '\u2028' || c = '\u2029'

/-- Blanks within a line. -/
def isBlank (c : Char) : Bool := c = ' ' || c = '\t'

/-- Characters of names. -/
def isName (c : Char) : Bool := Text.isLetter c || Text.isDigit c || c = '_' || c = '-'

namespace Cursor

/-- The character so many places ahead. -/
def ahead (c : Cursor) (n : Nat) : Option Char := c.rest[n]?

/-- Whether a character of a class stands so many places ahead. -/
def has (c : Cursor) (p : Char → Bool) (n : Nat) : Bool :=
  match c.ahead n with
  | some x => p x
  | none => false

/-- Whether a line ends so many places ahead. -/
def lineEnds (c : Cursor) (n : Nat) : Bool :=
  match c.ahead n with
  | some x => isBreak x
  | none => true

/-- Whether a word ends so many places ahead. -/
def wordEnds (c : Cursor) (n : Nat) : Bool := c.lineEnds n || c.has isBlank n

/-- One character on. -/
def skip (c : Cursor) : Cursor :=
  { c with rest := c.rest.drop 1, index := c.index + 1, column := c.column + 1 }

/-- One line break on; a carriage return and a line feed are one. -/
def skipBreak (c : Cursor) : Cursor :=
  let width := if c.rest.take 2 = ['\r', '\n'] then 2 else 1
  { rest := c.rest.drop width, index := c.index + width, line := c.line + 1, column := 0 }

/-- What a line break reads as. -/
def breakText (c : Cursor) : List Char :=
  match c.ahead 0 with
  | none => []
  | some x => if x = '\u2028' || x = '\u2029' then [x] else ['\n']

/-- Whether a document marker of three given characters starts here. -/
def hasMarker (c : Cursor) (x : Char) : Bool :=
  c.column = 0 && c.rest.take 3 = [x, x, x] && c.wordEnds 3

/-- Whether any document marker starts here. -/
def atMarker (c : Cursor) : Bool := c.hasMarker '-' || c.hasMarker '.'

/-- Past all characters of a class. -/
def skipWhile (c : Cursor) (p : Char → Bool) : Cursor :=
  let (taken, rest) := c.rest.span p
  { c with rest, index := c.index + taken.length, column := c.column + taken.length }

end Cursor

/-- Refuses unless a condition holds. -/
def check (condition : Bool) : Scan Unit := if condition then return () else failure

/-- Takes one character. -/
def skip : Scan Unit := modify Cursor.skip

/-- Takes the longest run of characters of a class. -/
def takeMany (p : Char → Bool) : Scan (List Char) := do
  let c ← get
  set (c.skipWhile p)
  return c.rest.takeWhile p

/-- Takes one given character if it is next. -/
def accept (x : Char) : Scan Bool := do
  if (← get).has (· = x) 0 then
    skip
    return true
  else return false

/-- Takes a comment, if there is one, up to the end of its line. -/
def skipComment : Scan Unit := do
  if (← get).has (· = '#') 0 then
    let _ ← takeMany (!isBreak ·)

end Concretize.Yaml
