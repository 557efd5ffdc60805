import Concretize.Json.Value
import Concretize.Text.Digits

/-!
# Reading JSON text

A `Reading` is what a text says up to the place where it goes wrong. Reading never fails: a fault is
a leaf of the tree, at the place where it was met, so that whoever consumes the tree from left to
right finds the first problem of the text, be it a fault of the text or a value of the wrong shape.

A fault carries two categories, because a value that is only skipped is checked less strictly than
one that is decoded.
-/
namespace Concretize.Json

/-- What kind of problem a text has. -/
inductive Category where
  /-- The text ended early. -/
  | ended
  /-- The text is not JSON. -/
  | malformed
  /-- The text is JSON of the wrong shape. -/
  | mismatched
deriving DecidableEq, Repr

/-- The word for a category. -/
def Category.label : Category → String
  | .ended => "eof"
  | .malformed => "syntax"
  | .mismatched => "data"

/-- A fault as met by a decoder, and as met when the value is skipped. -/
structure Flaw where
  decoding : Category
  skipping : Category
deriving DecidableEq, Repr

/-- A flaw that is the same either way. -/
def Flaw.of (c : Category) : Flaw := ⟨c, c⟩

/-- How a container ends. -/
inductive Ending where
  | closed
  /-- Something else stands where a comma or the end was expected. -/
  | broken (c : Category)
  /-- Something else stands where an item was expected after a comma. -/
  | afterComma (c : Category)
  /-- The first thing in an object is not a key; the category is that of reading it as a value. -/
  | strayKey (asValue : Category)
  /-- A key that is no text. -/
  | brokenKey (flaw : Flaw)
deriving DecidableEq, Repr

/-- What a text says, up to the place where it goes wrong. -/
inductive Reading where
  | null
  | bool (b : Bool)
  /-- A number as written. -/
  | number (lexeme : List Char)
  /-- A text; decoding it may fail although it can be skipped. -/
  | text (decoded : Except Category String)
  | array (items : List Reading) (ending : Ending)
  | object (members : List (Except Category String × Reading)) (ending : Ending)
  /-- The text ended where a value should start. -/
  | missing
  | brokenText (flaw : Flaw)
  /-- Some other value that goes wrong, or no value at all. -/
  | broken (flaw : Flaw)

/-! ## Tokens -/

/-- JSON white space. -/
def isBlank (c : Char) : Bool := c = ' ' || c = '\n' || c = '\t' || c = '\r'

/-- The value of a hexadecimal digit. -/
def hexValue? (c : Char) : Option Nat := (Text.digitValue? c).filter (· < 16)

/-- The number of bytes that characters take. -/
def utf8Length (cs : List Char) : Nat := cs.foldr (fun c n => c.utf8Size + n) 0

/-- The value of four hexadecimal digits and the rest; a text with fewer than four bytes left has
ended. -/
def readHex4 (cs : List Char) : Except Category (Nat × List Char) :=
  if utf8Length (cs.take 4) < 4 then .error .ended
  else
    match cs with
    | a :: b :: c :: d :: rest =>
      match hexValue? a, hexValue? b, hexValue? c, hexValue? d with
      | some a, some b, some c, some d => .ok (((a * 16 + b) * 16 + c) * 16 + d, rest)
      | _, _, _, _ => .error .malformed
    | _ => .error .malformed

/-- The character a backslash and one letter stand for. -/
def simpleEscape? (c : Char) : Option Char :=
  if c = '"' then some '"'
  else if c = '\\' then some '\\'
  else if c = '/' then some '/'
  else if c = 'b' then some '\x08'
  else if c = 'f' then some '\x0c'
  else if c = 'n' then some '\n'
  else if c = 'r' then some '\r'
  else if c = 't' then some '\t'
  else none

/-- What follows `\u` when the text is decoded: a code unit, or two that form a pair. -/
def readUnicodeEscape (cs : List Char) : Except Category (Char × List Char) := do
  let (unit, rest) ← readHex4 cs
  if 0xDC00 ≤ unit ∧ unit ≤ 0xDFFF then .error .malformed
  else if unit < 0xD800 ∨ 0xDBFF < unit then .ok (Char.ofNat unit, rest)
  else
    match rest with
    | [] => .error .ended
    | ['\\'] => .error .ended
    | '\\' :: 'u' :: rest =>
      let (low, rest) ← readHex4 rest
      if low < 0xDC00 ∨ 0xDFFF < low then .error .malformed
      else .ok (Char.ofNat ((unit - 0xD800) * 1024 + (low - 0xDC00) + 0x10000), rest)
    | _ => .error .malformed

/-- Decodes a text after its opening quote. The bound is on the number of characters. -/
def decodeText : Nat → List Char → Except Category (List Char)
  | 0, _ => .error .ended
  | _, [] => .error .ended
  | _, '"' :: _ => .ok []
  | _, ['\\'] => .error .ended
  | bound + 1, '\\' :: 'u' :: rest => do
    let (c, rest) ← readUnicodeEscape rest
    return c :: (← decodeText bound rest)
  | bound + 1, '\\' :: c :: rest =>
    match simpleEscape? c with
    | some c => do return c :: (← decodeText bound rest)
    | none => .error .malformed
  | bound + 1, c :: rest =>
    if c.toNat < 0x20 then .error .malformed
    else do return c :: (← decodeText bound rest)

/-- Skips a text after its opening quote, and returns what follows its closing quote. -/
def skipText : Nat → List Char → Except Category (List Char)
  | 0, _ => .error .ended
  | _, [] => .error .ended
  | _, '"' :: rest => .ok rest
  | _, ['\\'] => .error .ended
  | bound + 1, '\\' :: 'u' :: rest => do
    let (_, rest) ← readHex4 rest
    skipText bound rest
  | bound + 1, '\\' :: c :: rest =>
    match simpleEscape? c with
    | some _ => skipText bound rest
    | none => .error .malformed
  | bound + 1, c :: rest =>
    if c.toNat < 0x20 then .error .malformed else skipText bound rest

/-- The category of an outcome that is an error, or of the other outcome if it is none. -/
def errorOr {α : Type} (r : Except Category α) (c : Category) : Category :=
  match r with
  | .error e => e
  | .ok _ => c

/-- A decoded text and what follows it, after the opening quote. -/
def readText (bound : Nat) (cs : List Char) : Except Flaw (Except Category String × List Char) :=
  let decoded := decodeText bound cs
  match skipText bound cs with
  | .ok rest => .ok (decoded.map String.ofList, rest)
  | .error skipping => .error ⟨errorOr decoded skipping, skipping⟩

/-- A number that breaks off: the end of the text is told apart only when decoding. -/
def brokenNumber (rest : List Char) : Flaw :=
  ⟨if rest.isEmpty then .ended else .malformed, .malformed⟩

/-- One or more digits. -/
def readDigits (cs : List Char) : Except Flaw (List Char × List Char) :=
  let (digits, rest) := cs.span Text.isDigit
  if digits.isEmpty then .error (brokenNumber rest) else .ok (digits, rest)

/-- The digits before the point: a leading zero stands alone. -/
def readWhole (cs : List Char) : Except Flaw (List Char × List Char) :=
  match cs with
  | '0' :: rest =>
    if (rest.head?.map Text.isDigit).getD false then .error (.of .malformed) else .ok (['0'], rest)
  | _ => readDigits cs

/-- The point and the digits after it, if there is a point. -/
def readFraction (cs : List Char) : Except Flaw (List Char × List Char) :=
  match cs with
  | '.' :: rest => do
    let (digits, rest) ← readDigits rest
    return ('.' :: digits, rest)
  | _ => .ok ([], cs)

/-- The exponent, if there is one. -/
def readExponent (cs : List Char) : Except Flaw (List Char × List Char) :=
  match cs with
  | c :: rest =>
    if c = 'e' ∨ c = 'E' then do
      let (sign, rest) :=
        match rest with
        | '+' :: rest => (['+'], rest)
        | '-' :: rest => (['-'], rest)
        | _ => ([], rest)
      let (digits, rest) ← readDigits rest
      return (c :: sign ++ digits, rest)
    else .ok ([], cs)
  | [] => .ok ([], [])

/-- A number and what follows it. -/
def readNumber (cs : List Char) : Except Flaw (List Char × List Char) := do
  let (sign, rest) :=
    match cs with
    | '-' :: rest => (['-'], rest)
    | _ => ([], cs)
  let (whole, rest) ← readWhole rest
  let (fraction, rest) ← readFraction rest
  let (exponent, rest) ← readExponent rest
  return (sign ++ whole ++ fraction ++ exponent, rest)

/-- Reads the letters of a word; `none` if the text does not spell it. -/
def readWord : List Char → List Char → Except Flaw (List Char)
  | [], cs => .ok cs
  | _ :: _, [] => .error (.of .ended)
  | w :: word, c :: cs => if w = c then readWord word cs else .error (.of .malformed)

/-! ## Values -/

/-- The category that a leaf or the head of a container has where a text is wanted. -/
def wantedText : Reading → Category
  | .missing => .ended
  | .broken flaw => flaw.decoding
  | .brokenText flaw => flaw.decoding
  | _ => .mismatched

mutual

/-- Reads a value and returns what follows it. After a fault nothing follows. Of the bound, every
character takes two at most: one for the value it starts and one for the item it starts. -/
def readValue : Nat → List Char → Reading × List Char
  | 0, _ => (.broken (.of .malformed), [])
  | bound + 1, cs =>
    match cs.dropWhile isBlank with
    | [] => (.missing, [])
    | 'n' :: rest => ofWord .null (readWord ['u', 'l', 'l'] rest)
    | 't' :: rest => ofWord (.bool true) (readWord ['r', 'u', 'e'] rest)
    | 'f' :: rest => ofWord (.bool false) (readWord ['a', 'l', 's', 'e'] rest)
    | '"' :: rest =>
      match readText bound rest with
      | .ok (decoded, rest) => (.text decoded, rest)
      | .error flaw => (.brokenText flaw, [])
    | '[' :: rest =>
      match rest.dropWhile isBlank with
      | ']' :: rest => (.array [] .closed, rest)
      | [] => (.array [] (.broken .ended), [])
      | rest =>
        let (items, ending, rest) := readItems bound rest
        (.array items ending, rest)
    | '\x7b' :: rest =>
      match rest.dropWhile isBlank with
      | '\x7d' :: rest => (.object [] .closed, rest)
      | [] => (.object [] (.broken .ended), [])
      | '"' :: rest =>
        let (members, ending, rest) := readMembers bound rest
        (.object members ending, rest)
      | rest => (.object [] (.strayKey (wantedText (readValue bound rest).1)), [])
    | c :: rest =>
      if c = '-' || Text.isDigit c then
        match readNumber (c :: rest) with
        | .ok (lexeme, rest) => (.number lexeme, rest)
        | .error flaw => (.broken flaw, [])
      else (.broken (.of .malformed), [])

/-- Reads the items of an array, the first of which starts here. -/
def readItems : Nat → List Char → List Reading × Ending × List Char
  | 0, _ => ([], .broken .malformed, [])
  | bound + 1, cs =>
    let (item, rest) := readValue bound cs
    match rest.dropWhile isBlank with
    | ']' :: rest => ([item], .closed, rest)
    | [] => ([item], .broken .ended, [])
    | ',' :: rest =>
      match rest.dropWhile isBlank with
      | ']' :: _ => ([item], .afterComma .malformed, [])
      | [] => ([item], .afterComma .ended, [])
      | rest =>
        let (items, ending, rest) := readItems bound rest
        (item :: items, ending, rest)
    | _ => ([item], .broken .malformed, [])

/-- Reads the members of an object, the first of which starts after the quote of its key. -/
def readMembers : Nat → List Char →
    List (Except Category String × Reading) × Ending × List Char
  | 0, _ => ([], .broken .malformed, [])
  | bound + 1, cs =>
    match readText (bound + 1) cs with
    | .error flaw => ([], .brokenKey flaw, [])
    | .ok (key, rest) =>
      match rest.dropWhile isBlank with
      | ':' :: rest =>
        let (value, rest) := readValue bound rest
        match rest.dropWhile isBlank with
        | '\x7d' :: rest => ([(key, value)], .closed, rest)
        | [] => ([(key, value)], .broken .ended, [])
        | ',' :: rest =>
          match rest.dropWhile isBlank with
          | '"' :: rest =>
            let (members, ending, rest) := readMembers bound rest
            ((key, value) :: members, ending, rest)
          | [] => ([(key, value)], .afterComma .ended, [])
          | _ => ([(key, value)], .afterComma .malformed, [])
        | _ => ([(key, value)], .broken .malformed, [])
      | [] => ([(key, .missing)], .broken .ended, [])
      | _ => ([(key, .broken (.of .malformed))], .broken .malformed, [])

/-- A word that was read in full, or its flaw. -/
def ofWord (value : Reading) : Except Flaw (List Char) → Reading × List Char
  | .ok rest => (value, rest)
  | .error flaw => (.broken flaw, [])

end

/-- Reads a text and returns what follows its first value. -/
def read (text : String) : Reading × List Char :=
  readValue (2 * text.length + 2) text.toList

end Concretize.Json
