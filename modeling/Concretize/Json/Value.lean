/-!
# JSON values and how they are written

Objects keep the order of their members. `Json.pretty` indents by two spaces and writes empty
containers as `[]` and `{}`; `Json.compact` writes no blanks at all. Of the characters in a text
only the quote, the backslash and the control characters below space are escaped.
-/
namespace Concretize

/-- A JSON value. Numbers are natural, which is all that is ever written. -/
inductive Json where
  | null
  | bool (b : Bool)
  | number (n : Nat)
  | text (s : String)
  | array (items : List Json)
  | object (members : List (String × Json))
deriving Repr, Inhabited

namespace Json

/-- A hexadecimal digit, in lower case. -/
def hexDigit (n : Nat) : Char := (Nat.toDigits 16 (n % 16)).headD '0'

/-- One character of a text as written between quotes. -/
def escapeChar (c : Char) : List Char :=
  if c = '"' then ['\\', '"']
  else if c = '\\' then ['\\', '\\']
  else if c = '\x08' then ['\\', 'b']
  else if c = '\x0c' then ['\\', 'f']
  else if c = '\n' then ['\\', 'n']
  else if c = '\r' then ['\\', 'r']
  else if c = '\t' then ['\\', 't']
  else if c.toNat < 0x20 then ['\\', 'u', '0', '0', hexDigit (c.toNat / 16), hexDigit c.toNat]
  else [c]

/-- A text with its quotes. -/
def writeText (s : String) : List Char :=
  '"' :: s.toList.flatMap escapeChar ++ ['"']

/-- The line break before an item at some depth. -/
def lineBreak (depth : Nat) : List Char := '\n' :: List.replicate (2 * depth) ' '

/-- A value at some depth, one item of a container per line. -/
def writePretty (depth : Nat) : Json → List Char
  | .null => "null".toList
  | .bool b => (if b then "true" else "false").toList
  | .number n => (toString n).toList
  | .text s => writeText s
  | .array [] => ['[', ']']
  | .array (item :: items) =>
    '[' :: lineBreak (depth + 1) ++ writePretty (depth + 1) item ++ moreItems (depth + 1) items ++
      lineBreak depth ++ [']']
  | .object [] => ['\x7b', '\x7d']
  | .object ((key, value) :: members) =>
    '\x7b' :: lineBreak (depth + 1) ++ writeText key ++ [':', ' '] ++
      writePretty (depth + 1) value ++ moreMembers (depth + 1) members ++
      lineBreak depth ++ ['\x7d']
where
  /-- The items after the first, each after a comma. -/
  moreItems (depth : Nat) : List Json → List Char
    | [] => []
    | item :: items => ',' :: lineBreak depth ++ writePretty depth item ++ moreItems depth items
  /-- The members after the first, each after a comma. -/
  moreMembers (depth : Nat) : List (String × Json) → List Char
    | [] => []
    | (key, value) :: members =>
      ',' :: lineBreak depth ++ writeText key ++ [':', ' '] ++ writePretty depth value ++
        moreMembers depth members

/-- The indented text of a value. -/
def pretty (v : Json) : String := String.ofList (writePretty 0 v)

/-- A value without blanks. -/
def writeCompact : Json → List Char
  | .null => "null".toList
  | .bool b => (if b then "true" else "false").toList
  | .number n => (toString n).toList
  | .text s => writeText s
  | .array [] => ['[', ']']
  | .array (item :: items) => '[' :: writeCompact item ++ moreItems items ++ [']']
  | .object [] => ['\x7b', '\x7d']
  | .object ((key, value) :: members) =>
    '\x7b' :: writeText key ++ ':' :: writeCompact value ++ moreMembers members ++ ['\x7d']
where
  /-- The items after the first, each after a comma. -/
  moreItems : List Json → List Char
    | [] => []
    | item :: items => ',' :: writeCompact item ++ moreItems items
  /-- The members after the first, each after a comma. -/
  moreMembers : List (String × Json) → List Char
    | [] => []
    | (key, value) :: members =>
      ',' :: writeText key ++ ':' :: writeCompact value ++ moreMembers members

/-- The text of a value without blanks. -/
def compact (v : Json) : String := String.ofList (writeCompact v)

end Json

end Concretize
