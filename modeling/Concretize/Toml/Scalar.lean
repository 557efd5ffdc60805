import Concretize.Decimal.Literal
import Concretize.Text.Reader
import Concretize.Toml.Value

/-!
# TOML scalars

Readers for strings in their four forms, for numbers, and for dates and times.
-/
namespace Concretize.Toml

open Text (Reader)
open Text.Reader

/-! ## Strings -/

/-- Blanks within a line. -/
def isBlank (c : Char) : Bool := c = ' ' || c = '\t'

/-- Characters that may stand for themselves in a line: a tab, or no control character. -/
def isPlain (c : Char) : Bool := c = '\t' || (0x20 ≤ c.toNat && c.toNat ≠ 0x7F)

/-- A line break: a line feed, with a carriage return before it or not. -/
def newline : Reader Unit := do
  let _ ← accept ['\r']
  char '\n'

/-- The character that so many hexadecimal digits stand for. -/
def codePoint (digits : Nat) : Reader Char := do
  let ds ← count (Text.isDigitOf 16) digits
  match Text.charOf? (Text.valueOf 16 ds) with
  | some c => return c
  | none => failure

/-- What follows a backslash. -/
def escape : Reader Char := do
  match ← next with
  | 'b' => return '\x08'
  | 't' => return '\t'
  | 'n' => return '\n'
  | 'f' => return '\x0c'
  | 'r' => return '\r'
  | '"' => return '"'
  | '\\' => return '\\'
  | 'u' => codePoint 4
  | 'U' => codePoint 8
  | _ => failure

/-- A string in quotes, after the opening quote. The bound is on the number of characters. -/
def quoted : Nat → Reader (List Char)
  | 0 => failure
  | bound + 1 => do
    match ← next with
    | '"' => return []
    | '\\' =>
      let c ← escape
      return c :: (← quoted bound)
    | c =>
      check (isPlain c)
      return c :: (← quoted bound)

/-- A string in apostrophes, after the opening one. -/
def literal : Reader (List Char) := do
  let cs ← many fun c => isPlain c && c ≠ '\''
  char '\''
  return cs

/-- A string on one line. -/
def lineString : Reader String := do
  match ← next with
  | '"' => return String.ofList (← quoted ((← remaining) + 1))
  | '\'' => return String.ofList (← literal)
  | _ => failure

/-- A run of delimiters inside a string of several lines. Up to two of them may stand before the
three that end the string; fewer than three in all are text. Answers the text, and whether the
string has ended. -/
def delimiters (delimiter : Char) : Reader (List Char × Bool) := do
  let found := ((← get).takeWhile (· = delimiter)).length
  if found < 3 then
    chars (List.replicate found delimiter)
    return (List.replicate found delimiter, false)
  else
    let kept := min (found - 3) 2
    chars (List.replicate (kept + 3) delimiter)
    return (List.replicate kept delimiter, true)

/-- Blanks and line breaks. -/
def gaps : Nat → Reader Unit
  | 0 => return ()
  | bound + 1 => do
    let _ ← many isBlank
    (do newline; gaps bound) <|> return ()

/-- A string of several lines, after the opening delimiter. Line breaks are read as line feeds, and
a backslash at the end of a line joins the next text to it. The bound is on the number of
characters. -/
def multiline (delimiter : Char) : Nat → Reader (List Char)
  | 0 => failure
  | bound + 1 => do
    match ← peek with
    | none => failure
    | some c =>
      if c = delimiter then
        let (text, ended) ← delimiters delimiter
        if ended then return text else return text ++ (← multiline delimiter bound)
      else if c = '\r' || c = '\n' then
        newline
        return '\n' :: (← multiline delimiter bound)
      else if c = '\\' && delimiter = '"' then
        char '\\'
        let joined ← (do let _ ← many isBlank; newline; return true) <|> return false
        if joined then
          gaps (← remaining)
          multiline delimiter bound
        else
          let c ← escape
          return c :: (← multiline delimiter bound)
      else
        let c ← one isPlain
        return c :: (← multiline delimiter bound)

/-- A string in any of its forms. -/
def string : Reader String := do
  for delimiter in ['"', '\''] do
    if ← accept [delimiter, delimiter, delimiter] then
      newline <|> return ()
      return String.ofList (← multiline delimiter ((← remaining) + 1))
  lineString

/-! ## Numbers -/

/-- Digits of a base; single underscores may stand between two of them. The bound is on the number
of underscores. -/
def digitGroups (base : Nat) : Nat → Reader (List Char)
  | 0 => failure
  | bound + 1 => do
    let ds ← many1 (Text.isDigitOf base)
    if ← accept ['_'] then return ds ++ (← digitGroups base bound) else return ds

/-- Digits of a base, perhaps in groups. -/
def digits (base : Nat) : Reader (List Char) := do digitGroups base ((← remaining) + 1)

/-- An optional sign. -/
def sign : Reader (List Char) := do
  if ← accept ['-'] then return ['-']
  else if ← accept ['+'] then return ['+']
  else return []

/-- Decimal digits without a leading zero. -/
def whole : Reader (List Char) := do
  if ← accept ['0'] then return ['0'] else digits 10

/-- The point and the digits after it. -/
def fraction : Reader (List Char) := do
  char '.'
  return '.' :: (← digits 10)

/-- The exponent. -/
def exponent : Reader (List Char) := do
  let e ← one fun c => c = 'e' || c = 'E'
  let s ← sign
  return e :: s ++ (← digits 10)

/-- A float with a fraction or an exponent. One that rounds to positive infinity is refused. -/
def float : Reader Value := do
  let s ← sign
  let w ← whole
  let tail ← (do let f ← fraction; let e ← exponent <|> return []; return f ++ e) <|> exponent
  let lexeme := s ++ w ++ tail
  let l := Decimal.Literal.read lexeme
  check (l.negative || !l.isHuge)
  return .float (String.ofList lexeme)

/-- A float that is no number or infinite. -/
def specialFloat : Reader Value := do
  let s ← sign
  for word in ["inf", "nan"] do
    if ← accept word.toList then return .float (String.ofList s ++ word)
  failure

/-- The range of integers. -/
def fits (n : Int) : Bool := -9223372036854775808 ≤ n && n ≤ 9223372036854775807

/-- An integer; bases other than ten take no sign. -/
def integer : Reader Value := do
  for (letter, base) in [('x', 16), ('o', 8), ('b', 2)] do
    if ← accept ['0', letter] then
      let n : Int := Text.valueOf base (← digits base)
      check (fits n)
      return .integer n
  let s ← sign
  let magnitude : Int := Text.valueOf 10 (← whole)
  let n := if s = ['-'] then -magnitude else magnitude
  check (fits n)
  return .integer n

/-! ## Dates and times -/

/-- A number of two digits within bounds. -/
def twoDigits (low high : Nat) : Reader (List Char) := do
  let ds ← count Text.isDigit 2
  let n := Text.valueOf 10 ds
  check (low ≤ n && n ≤ high)
  return ds

/-- The number of days in a month. -/
def daysIn (year month : Nat) : Nat :=
  if month = 2 then
    if year % 4 = 0 && (year % 100 ≠ 0 || year % 400 = 0) then 29 else 28
  else if month = 4 || month = 6 || month = 9 || month = 11 then 30
  else 31

/-- A date. -/
def date : Reader (List Char) := do
  let year ← count Text.isDigit 4
  char '-'
  let month ← twoDigits 1 12
  char '-'
  let day ← twoDigits 1 (daysIn (Text.valueOf 10 year) (Text.valueOf 10 month))
  return year ++ ['-'] ++ month ++ ['-'] ++ day

/-- A time of day; a minute may have a leap second. -/
def time : Reader (List Char) := do
  let hour ← twoDigits 0 23
  char ':'
  let minute ← twoDigits 0 59
  char ':'
  let second ← twoDigits 0 60
  let parts ← (do char '.'; return '.' :: (← many1 Text.isDigit)) <|> return []
  return hour ++ [':'] ++ minute ++ [':'] ++ second ++ parts

/-- A distance from universal time. -/
def offset : Reader (List Char) := do
  match ← next with
  | 'Z' => return ['Z']
  | 'z' => return ['z']
  | c =>
    check (c = '+' || c = '-')
    let hour ← twoDigits 0 23
    char ':'
    return c :: hour ++ [':'] ++ (← twoDigits 0 59)

/-- A time after a date. -/
def timeOfDate : Reader (List Char) := do
  let c ← one fun c => c = 'T' || c = 't' || c = ' '
  let t ← time
  let o ← offset <|> return []
  return c :: t ++ o

/-- A date, a time, or both. -/
def moment : Reader Value := do
  let cs ← (do let d ← date; let t ← timeOfDate <|> return []; return d ++ t) <|> time
  return .moment (String.ofList cs)

end Concretize.Toml
