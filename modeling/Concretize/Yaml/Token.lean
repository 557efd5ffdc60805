import Concretize.Yaml.Scalar

/-!
# YAML tokens

Splits a text into tokens. Indentation opens and closes blocks, which have tokens of their own. A
scalar or collection that turns out to be a key, because a colon follows on the same line, gets its
key token in front of it once the colon is met.
-/
namespace Concretize.Yaml

/-- A token. -/
inductive Token where
  | streamEnd
  | version (major minor : Nat)
  /-- A handle for tags, and what it stands for. -/
  | tagHandle (handle expansion : String)
  | documentStart
  | documentEnd
  | blockSequenceStart
  | blockMappingStart
  | blockEnd
  | flowSequenceStart
  | flowSequenceEnd
  | flowMappingStart
  | flowMappingEnd
  | blockEntry
  | flowEntry
  | key
  | value
  | alias (name : String)
  | anchor (name : String)
  | tag (handle suffix : String)
  | scalar (text : String) (style : Style)
deriving DecidableEq, Repr

/-! ## Directives, tags and anchors -/

/-- Characters of a tag; some more are allowed where the tag is delimited otherwise. -/
def isTagChar (delimited : Bool) (c : Char) : Bool :=
  isName c || ";/?:@&=+$.%!~*'()".toList.contains c || (delimited && ",[]".toList.contains c)

/-- The byte that a percent sign and two hexadecimal digits stand for. -/
def escapedByte : Scan Nat := do
  let c ← get
  match c.rest with
  | '%' :: a :: b :: rest =>
    check (Text.isDigitOf 16 a && Text.isDigitOf 16 b)
    set { c with rest, index := c.index + 3, column := c.column + 3 }
    return Text.valueOf 16 [a, b]
  | _ => failure

/-- The continuation bytes of a character. -/
def escapedBytes : Nat → Scan (List Nat)
  | 0 => return []
  | n + 1 => do
    let b ← escapedByte
    check (0x80 ≤ b && b < 0xC0)
    return b :: (← escapedBytes n)

/-- The character that escaped bytes stand for. -/
def escapedChar : Scan Char := do
  let first ← escapedByte
  let (lead, more) ←
    if first < 0x80 then pure (first, 0)
    else if 0xC0 ≤ first && first < 0xE0 then pure (first - 0xC0, 1)
    else if 0xE0 ≤ first && first < 0xF0 then pure (first - 0xE0, 2)
    else if 0xF0 ≤ first && first < 0xF8 then pure (first - 0xF0, 3)
    else failure
  let n := (← escapedBytes more).foldl (fun n b => n * 64 + (b - 0x80)) lead
  match Text.charOf? n with
  | some x => return x
  | none => failure

/-- The text of a tag. The bound is on the number of characters. -/
def tagText (delimited : Bool) : Nat → Scan (List Char)
  | 0 => failure
  | bound + 1 => do
    let c ← get
    match c.ahead 0 with
    | none => return []
    | some x =>
      if x = '%' then return (← escapedChar) :: (← tagText delimited bound)
      else if isTagChar delimited x then
        skip
        return x :: (← tagText delimited bound)
      else return []

/-- The text of a tag that must not be empty. -/
def tagText1 (delimited : Bool) : Scan (List Char) := do
  let cs ← tagText delimited ((← get).rest.length + 1)
  if cs.isEmpty then failure else return cs

/-- What a tag starts with: an exclamation mark, a name, and another mark if there is one. -/
def tagStart : Scan (List Char) := do
  check (← accept '!')
  let name ← takeMany isName
  if ← accept '!' then return '!' :: name ++ ['!'] else return '!' :: name

/-- A tag: delimited, with a handle, or local. -/
def tagToken (inFlow : Bool) : Scan Token := do
  let c ← get
  let token ←
    if c.has (· = '<') 1 then do
      set c.skip.skip
      let text ← tagText1 true
      check (← accept '>')
      pure (Token.tag "" (String.ofList text))
    else do
      let start ← tagStart
      if 2 ≤ start.length && start.getLast? = some '!' then
        pure (Token.tag (String.ofList start) (String.ofList (← tagText1 false)))
      else
        let text := start.drop 1 ++ (← tagText false ((← get).rest.length + 1))
        pure (if text.isEmpty then Token.tag "" "!" else Token.tag "!" (String.ofList text))
  let c ← get
  check ((inFlow && c.has (· = ',') 0) || c.wordEnds 0)
  return token

/-- The name of an anchor or an alias, after its indicator. -/
def anchorName : Scan String := do
  skip
  let name ← takeMany isName
  let c ← get
  check (!name.isEmpty && (c.wordEnds 0 || c.has ("?:,]\x7d%@\x60".toList.contains ·) 0))
  return String.ofList name

/-- A version number has at most nine digits. -/
def versionNumber : Scan Nat := do
  let ds ← takeMany Text.isDigit
  check (!ds.isEmpty && ds.length ≤ 9)
  return Text.valueOf 10 ds

/-- A directive and the rest of its line. -/
def directive : Scan Token := do
  skip
  let name ← takeMany isName
  check (!name.isEmpty && (← get).wordEnds 0)
  let _ ← takeMany isBlank
  let token ←
    if String.ofList name = "YAML" then do
      let major ← versionNumber
      check (← accept '.')
      pure (Token.version major (← versionNumber))
    else if String.ofList name = "TAG" then do
      let handle ← tagStart
      check (handle = ['!'] || (2 ≤ handle.length && handle.getLast? = some '!'))
      check ((← get).has isBlank 0)
      let _ ← takeMany isBlank
      let expansion ← tagText1 true
      check ((← get).wordEnds 0)
      pure (Token.tagHandle (String.ofList handle) (String.ofList expansion))
    else failure
  let _ ← takeMany isBlank
  skipComment
  let c ← get
  check (c.lineEnds 0)
  if !c.rest.isEmpty then set c.skipBreak
  return token

/-! ## Scanning -/

/-- A place where a key may have started. -/
structure PossibleKey where
  /-- In a block, whatever starts at its indentation has to be a key. -/
  required : Bool
  /-- The number of tokens before it. -/
  position : Nat
  index : Nat
  line : Nat
  column : Nat

/-- The state of scanning. -/
structure Scanner where
  cursor : Cursor
  /-- The tokens found, the last one first. -/
  found : List Token := []
  /-- The indentation of the current block, and of those around it. -/
  indent : Int := -1
  outer : List Int := []
  /-- Whether a key may start here. -/
  keyAllowed : Bool := true
  /-- Where a key may have started: in the innermost collection, and in the collections around it,
  of which there is one per bracket. -/
  key? : Option PossibleKey := none
  outerKeys : List (Option PossibleKey) := []

namespace Scanner

/-- Whether any bracket is open. -/
def inFlow (s : Scanner) : Bool := !s.outerKeys.isEmpty

/-- Adds a token. -/
def add (t : Token) (s : Scanner) : Scanner := { s with found := t :: s.found }

/-- Adds a token before the one at a position. -/
def insertAt (position : Nat) (t : Token) (s : Scanner) : Scanner :=
  let after := s.found.length - position
  { s with found := s.found.take after ++ t :: s.found.drop after }

/-- Runs a reader at the cursor. -/
def reading {α : Type} (scan : Scan α) (s : Scanner) : Option (α × Scanner) := do
  let (a, cursor) ← scan.run s.cursor
  return (a, { s with cursor })

/-- Opens a block at a column if it is deeper than the current one; its token goes to a position. -/
def openBlock (column : Nat) (position : Nat) (t : Token) (s : Scanner) : Scanner :=
  if !s.inFlow && s.indent < column then
    ({ s with indent := column, outer := s.indent :: s.outer }).insertAt position t
  else s

/-- Closes blocks, given those around them, until one is not deeper than a column. -/
def closeBlocksFrom (column : Int) : List Int → Scanner → Scanner
  | outer, s =>
    match outer with
    | [] => s
    | next :: rest =>
      if s.indent ≤ column then s
      else closeBlocksFrom column rest ({ s with indent := next, outer := rest }.add .blockEnd)

/-- Closes blocks until one is not deeper than a column. Brackets keep blocks open. -/
def closeBlocks (column : Int) (s : Scanner) : Scanner :=
  if s.inFlow then s else closeBlocksFrom column s.outer s

/-- Gives up the place where a key may have started, unless it has to be one. -/
def dropKey (s : Scanner) : Option Scanner :=
  match s.key? with
  | some k => if k.required then none else some { s with key? := none }
  | none => some s

/-- Notes that a key may start here. -/
def saveKey (s : Scanner) : Option Scanner := do
  if s.keyAllowed then
    let s ← s.dropKey
    let c := s.cursor
    let required := !s.inFlow && s.indent = c.column
    return { s with
      key? := some { required, position := s.found.length, index := c.index, line := c.line,
                     column := c.column } }
  else return s

/-- Whether a key that started there would have to end before the cursor: it takes one line, and no
more than 1024 characters. -/
def isStale (c : Cursor) (k : PossibleKey) : Bool := k.line < c.line || k.index + 1024 < c.index

/-- Gives up the places where a key has become too long. -/
def dropStaleKeys (s : Scanner) : Option Scanner := do
  let keep (k : Option PossibleKey) : Option (Option PossibleKey) :=
    match k with
    | some k =>
      if isStale s.cursor k then (if k.required then none else some none) else some (some k)
    | none => some none
  return { s with key? := ← keep s.key?, outerKeys := ← s.outerKeys.mapM keep }

/-- Skips blanks, comments and line breaks. Tabs do not indent. The bound is on the number of
lines. -/
def skipToToken : Nat → Scanner → Option Scanner
  | 0, _ => none
  | bound + 1, s => do
    let c := s.cursor
    let c := if c.index = 0 && c.has (· = '\uFEFF') 0 then c.skip else c
    let c := c.skipWhile fun x => x = ' ' || (x = '\t' && (s.inFlow || !s.keyAllowed))
    let c := if c.has (· = '#') 0 then c.skipWhile (!isBreak ·) else c
    if c.has isBreak 0 then
      skipToToken bound { s with cursor := c.skipBreak, keyAllowed := s.keyAllowed || !s.inFlow }
    else return { s with cursor := c }

/-- Moves so many characters on. -/
def skipChars (n : Nat) (s : Scanner) : Scanner :=
  { s with cursor := (List.replicate n ()).foldl (fun c _ => c.skip) s.cursor }

/-- Closes all blocks before a directive, a document marker or the end. -/
def reset (s : Scanner) : Option Scanner := do
  let s ← (s.closeBlocks (-1)).dropKey
  return { s with keyAllowed := false }

/-- Scans an opening bracket. -/
def openFlow (t : Token) (s : Scanner) : Option Scanner := do
  let s ← s.saveKey
  return ({ s with key? := none, outerKeys := s.key? :: s.outerKeys, keyAllowed := true }.skipChars
    1).add t

/-- Scans a closing bracket. -/
def closeFlow (t : Token) (s : Scanner) : Option Scanner := do
  let s ← s.dropKey
  let s :=
    match s.outerKeys with
    | [] => s
    | k :: rest => { s with key? := k, outerKeys := rest }
  return ({ s with keyAllowed := false }.skipChars 1).add t

/-- Scans a comma inside brackets. -/
def flowEntry (s : Scanner) : Option Scanner := do
  let s ← s.dropKey
  return ({ s with keyAllowed := true }.skipChars 1).add .flowEntry

/-- Scans the dash of a block sequence. -/
def blockEntry (s : Scanner) : Option Scanner := do
  if !s.inFlow && !s.keyAllowed then none
  let s ← (s.openBlock s.cursor.column s.found.length .blockSequenceStart).dropKey
  return ({ s with keyAllowed := true }.skipChars 1).add .blockEntry

/-- Scans a question mark that announces a key. -/
def explicitKey (s : Scanner) : Option Scanner := do
  if !s.inFlow && !s.keyAllowed then none
  let s ← (s.openBlock s.cursor.column s.found.length .blockMappingStart).dropKey
  return ({ s with keyAllowed := !s.inFlow }.skipChars 1).add .key

/-- Scans a colon, which makes a key of what a key may have started before it. -/
def value (s : Scanner) : Option Scanner := do
  match s.key? with
  | some k =>
    let s := (s.insertAt k.position .key).openBlock k.column k.position .blockMappingStart
    return ({ s with key? := none, keyAllowed := false }.skipChars 1).add .value
  | none =>
    if !s.inFlow && !s.keyAllowed then none
    let s := s.openBlock s.cursor.column s.found.length .blockMappingStart
    return ({ s with keyAllowed := !s.inFlow }.skipChars 1).add .value

/-- Scans something that may be the start of a key. -/
def keyable (scan : Scan Token) (s : Scanner) : Option Scanner := do
  let s ← s.saveKey
  let (t, s) ← { s with keyAllowed := false }.reading scan
  return s.add t

/-- Scans a block scalar. -/
def block (literal : Bool) (s : Scanner) : Option Scanner := do
  let s ← s.dropKey
  let (text, s) ← { s with keyAllowed := true }.reading (blockScalar literal s.indent)
  return s.add (.scalar text (if literal then .literal else .folded))

/-- Scans a plain scalar. After a line break a key may start again. -/
def plain (s : Scanner) : Option Scanner := do
  let s ← s.saveKey
  let ((text, ended), s) ← s.reading (plainScalar s.inFlow (s.indent + 1).toNat)
  return { s with keyAllowed := ended }.add (.scalar text .plain)

/-- Whether a plain scalar may start at the cursor. -/
def startsPlain (s : Scanner) : Bool :=
  let c := s.cursor
  match c.ahead 0 with
  | none => false
  | some x =>
    !(c.wordEnds 0 || "-?:,[]\x7b\x7d#&*!|>'\"%@\x60".toList.contains x) ||
      (x = '-' && !c.has isBlank 1) ||
      (!s.inFlow && (x = '?' || x = ':') && !c.wordEnds 1)

/-- Scans one token that starts with a character. -/
def token (x : Char) (s : Scanner) : Option Scanner :=
  let c := s.cursor
  if c.column = 0 && x = '%' then do
    let (t, s) ← (← s.reset).reading directive
    return s.add t
  else if c.hasMarker '-' then do return ((← s.reset).skipChars 3).add .documentStart
  else if c.hasMarker '.' then do return ((← s.reset).skipChars 3).add .documentEnd
  else if x = '[' then s.openFlow .flowSequenceStart
  else if x = '\x7b' then s.openFlow .flowMappingStart
  else if x = ']' then s.closeFlow .flowSequenceEnd
  else if x = '\x7d' then s.closeFlow .flowMappingEnd
  else if x = ',' then s.flowEntry
  else if x = '-' && c.wordEnds 1 then s.blockEntry
  else if x = '?' && (s.inFlow || c.wordEnds 1) then s.explicitKey
  else if x = ':' && (s.inFlow || c.wordEnds 1) then s.value
  else if x = '*' then s.keyable (Token.alias <$> anchorName)
  else if x = '&' then s.keyable (Token.anchor <$> anchorName)
  else if x = '!' then s.keyable (tagToken s.inFlow)
  else if x = '|' && !s.inFlow then s.block true
  else if x = '>' && !s.inFlow then s.block false
  else if x = '\'' then s.keyable ((Token.scalar · .single) <$> quotedScalar '\'')
  else if x = '"' then s.keyable ((Token.scalar · .double) <$> quotedScalar '"')
  else if s.startsPlain then s.plain
  else none

/-- Scans all tokens. The bound is on the number of tokens. -/
def run : Nat → Scanner → Option (List Token)
  | 0, _ => none
  | bound + 1, s => do
    let s ← skipToToken (s.cursor.rest.length + 1) s
    let s ← s.dropStaleKeys
    let s := s.closeBlocks s.cursor.column
    match s.cursor.ahead 0 with
    | none =>
      let s ← s.reset
      return (s.add .streamEnd).found.reverse
    | some x => run bound (← s.token x)

end Scanner

/-- The tokens of a text; `none` if it is not YAML. -/
def tokens (text : String) : Option (List Token) :=
  let rest := text.toList
  if rest.all isAllowed then Scanner.run (rest.length + 1) { cursor := { rest } } else none

end Concretize.Yaml
