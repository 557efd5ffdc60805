import Concretize.Toml.Scalar

/-!
# TOML documents

Keys, values, and the lines of a document. A document is read into statements, which are then
carried out in order on a table that starts empty.
-/
namespace Concretize.Toml

open Text (Reader)
open Text.Reader

/-- The depth at which nesting, and the length at which a dotted key, is refused. -/
def depthLimit : Nat := 80

/-! ## Keys and values -/

/-- Characters of a bare key. -/
def isBare (c : Char) : Bool := Text.isLetter c || Text.isDigit c || c = '_' || c = '-'

/-- One part of a key. -/
def keyPart : Reader String := do
  match ← peek with
  | some '"' => lineString
  | some '\'' => lineString
  | _ => return String.ofList (← many1 isBare)

/-- A key of one or more parts, with the blanks around them. -/
def keyParts : Nat → Reader (List String)
  | 0 => failure
  | bound + 1 => do
    let _ ← many isBlank
    let part ← keyPart
    let _ ← many isBlank
    if ← accept ['.'] then return part :: (← keyParts bound) else return [part]

/-- A dotted key. -/
def key : Reader (List String) := keyParts (depthLimit - 1)

/-- A comment up to the end of its line, if there is one. -/
def comment : Reader Unit := do
  if ← accept ['#'] then
    let _ ← many isPlainOrDelete
where
  /-- Characters of a comment. -/
  isPlainOrDelete (c : Char) : Bool := isPlain c || c = '\x7f'

/-- The end of a line: blanks, a comment, and a line break or the end of the text. -/
def lineEnd : Reader Unit := do
  let _ ← many isBlank
  comment
  newline <|> ended

/-- Blanks, line breaks and comments between the items of an array. -/
def filler : Nat → Reader Unit
  | 0 => return ()
  | bound + 1 => do
    let _ ← many isBlank
    (do comment; newline; filler bound) <|> return ()

mutual

/-- A value inside so many arrays and tables. Of the bound, every character takes two at most: one
for the value it starts and one for the item it starts. -/
def value (depth : Nat) : Nat → Reader Value
  | 0 => failure
  | bound + 1 => do
    match ← peek with
    | none => failure
    | some '"' => return .text (← string)
    | some '\'' => return .text (← string)
    | some '[' =>
      check (depth + 1 < depthLimit)
      char '['
      return .array (← items (depth + 1) bound)
    | some '\x7b' =>
      check (depth + 1 < depthLimit)
      char '\x7b'
      let _ ← many isBlank
      if ← accept ['\x7d'] then return .table .inline []
      else return .table .inline (← pairs (depth + 1) bound [])
    | some 't' =>
      chars "true".toList
      return .boolean true
    | some 'f' =>
      chars "false".toList
      return .boolean false
    | some _ => moment <|> float <|> specialFloat <|> integer

/-- The items of an array and its end. -/
def items (depth : Nat) : Nat → Reader (List Value)
  | 0 => failure
  | bound + 1 => do
    filler (← remaining)
    if ← accept [']'] then return []
    let v ← value depth bound
    filler (← remaining)
    if ← accept [','] then return v :: (← items depth bound)
    char ']'
    return [v]

/-- The pairs of an inline table and its end, added to those before. -/
def pairs (depth : Nat) : Nat → Members → Reader Members
  | 0, _ => failure
  | bound + 1, before => do
    let k ← key
    char '='
    let _ ← many isBlank
    let v ← value depth bound
    let _ ← many isBlank
    match assign v k before with
    | none => failure
    | some ms =>
      if ← accept [','] then pairs depth bound ms
      else
        char '\x7d'
        return ms

end

/-! ## Statements -/

/-- One line of a document. -/
inductive Statement where
  | assign (key : List String) (value : Value)
  /-- A header in brackets. -/
  | header (path : List String)
  /-- A header in double brackets. -/
  | item (path : List String)
deriving Repr

/-- A statement and the end of its line. -/
def statement : Reader Statement := do
  if ← accept ['[', '['] then
    let path ← key
    chars [']', ']']
    lineEnd
    return .item path
  else if ← accept ['['] then
    let path ← key
    char ']'
    lineEnd
    return .header path
  else
    let k ← key
    char '='
    let _ ← many isBlank
    let v ← value 0 (2 * (← remaining) + 2)
    lineEnd
    return .assign k v

/-- The statements of a document; other lines are empty. The bound is on the number of lines. -/
def statements : Nat → Reader (List Statement)
  | 0 => failure
  | bound + 1 => do
    let _ ← many isBlank
    match ← peek with
    | none => return []
    | some c =>
      if c = '#' || c = '\n' || c = '\r' then
        lineEnd
        statements bound
      else
        let s ← statement
        return s :: (← statements bound)

/-! ## Carrying statements out -/

/-- The assignments up to the next header, and what follows them. -/
def leadingAssignments : List Statement → List (List String × Value) × List Statement
  | .assign k v :: rest =>
    let (assignments, others) := leadingAssignments rest
    ((k, v) :: assignments, others)
  | others => ([], others)

/-- Carries assignments out on a table. -/
def assignAll (ms : Members) (assignments : List (List String × Value)) : Option Members :=
  assignments.foldlM (fun ms (k, v) => assign v k ms) ms

/-- Opens the table of a header and carries its assignments out. A table can be opened once, unless
it was only implied before. -/
def openTable (assignments : List (List String × Value)) : Option Value → Option Value
  | none => Value.table .header <$> assignAll [] assignments
  | some (.table .implied ms) => Value.table .header <$> assignAll ms assignments
  | some _ => none

/-- Adds a table with assignments to those of a header in double brackets. -/
def addTable (assignments : List (List String × Value)) : Option Value → Option Value
  | none => (fun ms => .tables [ms]) <$> assignAll [] assignments
  | some (.tables before) => (fun ms => .tables (before ++ [ms])) <$> assignAll [] assignments
  | some _ => none

/-- Carries out statements that start with a header. The bound is on the number of headers. -/
def carryOut : Nat → List Statement → Members → Option Members
  | _, [], ms => some ms
  | 0, _ :: _, _ => none
  | bound + 1, s :: rest, ms => do
    let (assignments, others) := leadingAssignments rest
    let ms ←
      match s with
      | .assign .. => none
      | .header path => alter (openTable assignments) path ms
      | .item path => alter (addTable assignments) path ms
    carryOut bound others ms

/-- What a document says; `none` if it is not TOML. -/
def read (text : String) : Option Members := do
  let cs := text.toList
  let cs := if cs.head? = some '\uFEFF' then cs.drop 1 else cs
  let ss ← readAll (statements (cs.length + 1)) cs
  let (assignments, others) := leadingAssignments ss
  carryOut others.length others (← assignAll [] assignments)

end Concretize.Toml
