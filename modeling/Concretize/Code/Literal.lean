import Concretize.Code.Token
import Concretize.Text.Blank
import Concretize.Text.Digits
import Concretize.Text.NameTable
import Concretize.Text.Quoted
import Concretize.Text.Reader

/-!
# Literals

Numbers, characters and strings in code. Strings come in three families, text, bytes and C strings,
that differ in the characters they admit; each has a cooked form with escapes and a raw form between
hashes. Any literal may carry a suffix.
-/
namespace Concretize.Code.Literal

open Text Text.Reader

/-- What a family of strings admits. -/
structure Family where
  /-- The characters that may stand for themselves. -/
  plain : Char → Bool
  /-- The letters after a backslash that stand for one character. -/
  letters : List Char
  /-- The values that two hexadecimal digits may spell. -/
  hex : Nat → Bool
  /-- The values that braced hexadecimal digits may spell. -/
  unicode : Nat → Bool

/-- Text: any character. -/
def textFamily : Family where
  plain _ := true
  letters := ['n', 'r', 't', '\\', '\'', '"', '0']
  hex n := n < 0x80
  unicode _ := true

/-- Bytes: ASCII characters and any byte. -/
def byteFamily : Family where
  plain c := c.toNat < 0x80
  letters := ['n', 'r', 't', '\\', '\'', '"', '0']
  hex _ := true
  unicode _ := false

/-- C strings: anything but the character that ends them. -/
def cFamily : Family where
  plain c := c ≠ '\x00'
  letters := ['n', 'r', 't', '\\', '\'', '"']
  hex n := n ≠ 0
  unicode n := n ≠ 0

/-- The character that a letter after a backslash stands for. -/
def letterValue : Char → Char
  | 'n' => '\n'
  | 'r' => '\r'
  | 't' => '\t'
  | '0' => '\x00'
  | c => c

/-- Hexadecimal digits in braces, up to six, with underscores after the first. -/
def bracedHex : Reader Nat := do
  char '\x7b'
  let first ← one (isDigitOf 16)
  let rest ← many fun c => c = '_' || isDigitOf 16 c
  char '\x7d'
  let digits := first :: rest.filter (· ≠ '_')
  check (digits.length ≤ 6)
  return valueOf 16 digits

/-- An escape after its backslash, other than the end of a line. -/
def escape (f : Family) : Reader Char := do
  match ← next with
  | 'x' =>
    let value := valueOf 16 (← count (isDigitOf 16) 2)
    check (f.hex value)
    return Char.ofNat value
  | 'u' =>
    let value ← bracedHex
    check (f.unicode value)
    match charOf? value with
    | some c => return c
    | none => failure
  | c =>
    check (f.letters.contains c)
    return letterValue c

/-- The end of a line. -/
def lineEnd : Reader (List Char) := do
  let _ ← accept ['\r']
  char '\n'
  return ['\n']

/-- A backslash at the end of a line, which stands for nothing, as do the blanks after it. -/
def continued (f : Family) : Reader (List Char) := do
  char '\\'
  let _ ← lineEnd
  let _ ← repeated (lineEnd <|> do return [← one fun c => c ≠ '\r' && isSpace c && f.plain c])
  return []

/-- What stands for one character of a string, or for none. -/
def item (f : Family) : Reader (List Char) :=
  lineEnd <|> continued f <|>
    (do char '\\'; return [← escape f]) <|>
    (do return [← one fun c => c ≠ '"' && c ≠ '\\' && c ≠ '\r' && f.plain c])

/-- A string with escapes. -/
def cooked (f : Family) : Reader (List Char) := do
  char '"'
  let value ← repeated (item f)
  char '"'
  return value

/-- A string between hashes and quotes, taken as it stands. -/
def raw (f : Family) : Reader (List Char) := do
  let hashes ← many (· = '#')
  check (hashes.length ≤ 255)
  char '"'
  let value ← repeated do
    check (!(← comes ('"' :: hashes)))
    let c ← next
    if c = '\r' then
      char '\n'
      return [c, '\n']
    else
      check (f.plain c)
      return [c]
  chars ('"' :: hashes)
  return value

/-- The suffix of a literal, often none. -/
def suffix : Reader Unit := do
  match ← peek with
  | some c => if isNameStart c then let _ ← many isNameContinue
  | none => return ()

/-- A string of one family, whose raw form begins with `r` after the mark of the family. -/
def string (mark : List Char) (f : Family) : Reader (List Char) := do
  chars mark
  let value ← cooked f <|> (do char 'r'; raw f)
  suffix
  return value

/-- A character between single quotes. -/
def character : Reader Unit := do
  char '\''
  let _ ← (do char '\\'; escape textFamily) <|> one (· ≠ '\\')
  char '\''
  suffix

/-- A byte between single quotes. -/
def byte : Reader Unit := do
  chars ['b', '\'']
  let _ ← (do char '\\'; escape byteFamily) <|> one fun c => c ≠ '\\' && byteFamily.plain c
  char '\''
  suffix

/-- Decimal digits and underscores. -/
def isDigitOrGap (c : Char) : Bool := c = '_' || isDigit c

/-- The exponent of a number. -/
def exponent : Reader Unit := do
  let _ ← one fun c => c = 'e' || c = 'E'
  let digits ← many isDigitOrGap
  if digits.any isDigit then return ()
  let _ ← one fun c => c = '+' || c = '-'
  check ((← many isDigitOrGap).any isDigit)

/-- What may follow a number: a suffix, and nothing that could go on with it. -/
def numberEnd : Reader Unit := do
  suffix
  match ← peek with
  | some c => check (!isNameContinue c)
  | none => return ()

/-- A number with a point, an exponent or both. A point before a name or a point is not its own. -/
def float : Reader Unit := do
  let _ ← one isDigit
  let _ ← many isDigitOrGap
  let pointed ← accept ['.']
  if pointed then
    match ← peek with
    | some c => check (c ≠ '.' && !isNameStart c)
    | none => pure ()
    let _ ← many isDigitOrGap
  let scaled ← (do exponent; return true) <|> return false
  check (pointed || scaled)
  numberEnd

/-- Whole digits of a base, with underscores. -/
def wholeDigits (base : Nat) : Reader Unit := do
  let digits ← many fun c => isDigitOrGap c || isDigitOf base c
  check (digits.all fun c => c = '_' || isDigitOf base c)
  check (digits.any (· ≠ '_'))

/-- A whole number, in a base that its first two characters tell. -/
def whole : Reader Unit := do
  if ← accept ['0', 'x'] then wholeDigits 16
  else if ← accept ['0', 'o'] then wholeDigits 8
  else if ← accept ['0', 'b'] then wholeDigits 2
  else
    check (((← peek).map isDigit).getD false)
    wholeDigits 10
  numberEnd

/-- What stands in code for a literal that could not be read. -/
def unreadable : List Char := ['(', '/', '*', 'E', 'R', 'R', 'O', 'R', '*', '/', ')']

/-- A literal, as written. -/
def read : Reader (List Char) := taken <|
  (do let _ ← string [] textFamily) <|> (do let _ ← string ['b'] byteFamily) <|>
    (do let _ ← string ['c'] cFamily) <|> byte <|> character <|> float <|> whole <|>
    chars unreadable

/-- The text that a literal spells, if it is a text. -/
def textValue? (literal : String) : Option String :=
  (readAll (string [] textFamily) literal.toList).map String.ofList

/-- A character of a text literal. A zero before a digit is not written as one digit. -/
def spelled : List Char → List Char
  | [] => []
  | c :: rest =>
    let here :=
      if c = '\'' then [c]
      else if c = '\x00' && ((rest.head?.map (isDigitOf 8)).getD false) then ['\\', 'x', '0', '0']
      else escaped c
    here ++ spelled rest

/-- The literal that spells a text. -/
def ofText (text : List Char) : Token :=
  .literal (String.ofList ('"' :: spelled text ++ ['"']))

end Concretize.Code.Literal
