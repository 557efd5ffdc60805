import Concretize.Yaml.Cursor

/-!
# YAML scalars

Readers for plain, quoted and block scalars. A single line break inside a scalar that is folded
reads as a space, and of several breaks the first is dropped.
-/
namespace Concretize.Yaml

/-- How a scalar is written. -/
inductive Style where
  | plain
  | single
  | double
  | literal
  | folded
deriving DecidableEq, Repr

/-! ## Folding -/

/-- Blanks and line breaks met between two pieces of a scalar. -/
structure Gap where
  /-- Blanks, as long as no line has ended. -/
  blanks : List Char := []
  /-- Whether a line has ended. -/
  broken : Bool := false
  /-- The first line break. -/
  first : List Char := []
  /-- The line breaks after it. -/
  others : List Char := []

/-- What a gap reads as. -/
def Gap.fold (g : Gap) : List Char :=
  if g.broken then
    if g.first = ['\n'] then (if g.others.isEmpty then [' '] else g.others)
    else g.first ++ g.others
  else g.blanks

/-- Takes blanks and line breaks. Where a column is given, a tab may not stand before it at the
start of a line. The bound is on the number of characters. -/
def takeGap (tabLimit : Option Nat) : Nat → Gap → Scan Gap
  | 0, _ => failure
  | bound + 1, g => do
    let c ← get
    match c.ahead 0 with
    | none => return g
    | some x =>
      if isBlank x then
        check (!(g.broken && x = '\t' && c.column < tabLimit.getD 0))
        skip
        takeGap tabLimit bound (if g.broken then g else { g with blanks := g.blanks ++ [x] })
      else if isBreak x then
        set c.skipBreak
        takeGap tabLimit bound
          (if g.broken then { g with others := g.others ++ c.breakText }
          else { g with broken := true, first := c.breakText })
      else return g

/-! ## Plain scalars -/

/-- Characters that end a plain scalar inside brackets. -/
def isFlowIndicator (c : Char) : Bool :=
  c = ',' || c = '[' || c = ']' || c = '\x7b' || c = '\x7d'

/-- One word of a plain scalar, up to a blank, a line break or an indicator that ends it. -/
def plainWord (inFlow : Bool) : Nat → Scan (List Char)
  | 0 => failure
  | bound + 1 => do
    let c ← get
    match c.ahead 0 with
    | none => return []
    | some x =>
      if c.wordEnds 0 then return []
      else if inFlow && x = ':' && c.has (fun y => isFlowIndicator y || y = '?') 1 then failure
      else if x = ':' && c.wordEnds 1 then return []
      else if inFlow && isFlowIndicator x then return []
      else
        skip
        return x :: (← plainWord inFlow bound)

/-- The words of a plain scalar after a gap that was already taken. The answer says whether the gap
after the last word ends a line. -/
def plainWords (inFlow : Bool) (indent : Nat) : Nat → Gap → Scan (List Char × Bool)
  | 0, _ => failure
  | bound + 1, before => do
    let c ← get
    if c.atMarker || c.has (· = '#') 0 then return ([], before.broken)
    let word ← plainWord inFlow (c.rest.length + 1)
    let c ← get
    let kept := if word.isEmpty then before else {}
    let text := if word.isEmpty then [] else before.fold ++ word
    if c.rest.isEmpty || !c.wordEnds 0 then return (text, kept.broken)
    let gap ← takeGap (some indent) (c.rest.length + 1) kept
    if !inFlow && (← get).column < indent then return (text, gap.broken)
    let (others, ended) ← plainWords inFlow indent bound gap
    return (text ++ others, ended)

/-- A plain scalar. The answer says whether a line ended after it. -/
def plainScalar (inFlow : Bool) (indent : Nat) : Scan (String × Bool) := do
  let (cs, ended) ← plainWords inFlow indent ((← get).rest.length + 1) {}
  return (String.ofList cs, ended)

/-! ## Quoted scalars -/

/-- The character that so many hexadecimal digits stand for. -/
def codePoint (digits : Nat) : Scan (List Char) := do
  let c ← get
  let ds := c.rest.take digits
  check (ds.length = digits && ds.all (Text.isDigitOf 16))
  set { c with
    rest := c.rest.drop digits, index := c.index + digits, column := c.column + digits }
  match Text.charOf? (Text.valueOf 16 ds) with
  | some x => return [x]
  | none => failure

/-- What follows a backslash in double quotes. -/
def escape : Scan (List Char) := do
  let c ← get
  skip
  match c.ahead 0 with
  | some '0' => return ['\x00']
  | some 'a' => return ['\x07']
  | some 'b' => return ['\x08']
  | some 't' => return ['\t']
  | some '\t' => return ['\t']
  | some 'n' => return ['\n']
  | some 'v' => return ['\x0b']
  | some 'f' => return ['\x0c']
  | some 'r' => return ['\r']
  | some 'e' => return ['\x1b']
  | some ' ' => return [' ']
  | some '"' => return ['"']
  | some '/' => return ['/']
  | some '\\' => return ['\\']
  | some 'N' => return ['\x85']
  | some '_' => return ['\xa0']
  | some 'L' => return ['\u2028']
  | some 'P' => return ['\u2029']
  | some 'x' => codePoint 2
  | some 'u' => codePoint 4
  | some 'U' => codePoint 8
  | _ => failure

/-- One word in quotes, up to a blank, a line break or the closing quote. The answer says whether it
ends with an escaped line break, which is taken. -/
def quotedWord (quote : Char) : Nat → Scan (List Char × Bool)
  | 0 => failure
  | bound + 1 => do
    let c ← get
    match c.ahead 0 with
    | none => return ([], false)
    | some x =>
      if c.wordEnds 0 then return ([], false)
      else if x = '\'' && quote = '\'' && c.has (· = '\'') 1 then
        set c.skip.skip
        let (cs, joined) ← quotedWord quote bound
        return ('\'' :: cs, joined)
      else if x = quote then return ([], false)
      else if x = '\\' && quote = '"' then
        skip
        if c.has isBreak 1 then
          set c.skip.skipBreak
          return ([], true)
        else
          let e ← escape
          let (cs, joined) ← quotedWord quote bound
          return (e ++ cs, joined)
      else
        skip
        let (cs, joined) ← quotedWord quote bound
        return (x :: cs, joined)

/-- The words of a quoted scalar and the closing quote. A document marker may not stand in it. -/
def quotedWords (quote : Char) : Nat → Scan (List Char)
  | 0 => failure
  | bound + 1 => do
    let c ← get
    check (!c.atMarker && !c.rest.isEmpty)
    let (word, joined) ← quotedWord quote (c.rest.length + 1)
    if ← accept quote then return word
    let gap ← takeGap none ((← get).rest.length + 1) { broken := joined }
    return word ++ gap.fold ++ (← quotedWords quote bound)

/-- A quoted scalar. -/
def quotedScalar (quote : Char) : Scan String := do
  skip
  return String.ofList (← quotedWords quote ((← get).rest.length + 1))

/-! ## Block scalars -/

/-- What becomes of the line breaks at the end of a block scalar. -/
inductive Chomping where
  | strip
  | clip
  | keep
deriving DecidableEq, Repr

/-- A chomping indicator. -/
def chompingIndicator : Scan (Option Chomping) := do
  if ← accept '+' then return some .keep
  else if ← accept '-' then return some .strip
  else return none

/-- An indentation indicator, a digit other than zero. -/
def indentIndicator : Scan (Option Nat) := do
  match (← get).ahead 0 with
  | some x =>
    if Text.isDigit x then
      check (x ≠ '0')
      skip
      return some (Text.valueOf 10 [x])
    else return none
  | none => return none

/-- The indicators after `|` or `>`, in either order. -/
def blockHeader : Scan (Chomping × Option Nat) := do
  match ← chompingIndicator with
  | some chomping => return (chomping, ← indentIndicator)
  | none =>
    match ← indentIndicator with
    | some indent => return ((← chompingIndicator).getD .clip, some indent)
    | none => return (.clip, none)

/-- Takes empty lines and the indentation of the next one, up to a column if one is given. The
answer holds the line breaks and the greatest column reached. -/
def blockBreaks (indent : Option Nat) : Nat → Nat → Scan (List Char × Nat)
  | 0, _ => failure
  | bound + 1, widest => do
    let c ← get
    let spaces := (c.rest.takeWhile (· = ' ')).length
    let taken :=
      match indent with
      | some n => min spaces (n - c.column)
      | none => spaces
    let c :=
      { c with rest := c.rest.drop taken, index := c.index + taken, column := c.column + taken }
    set c
    let widest := max widest c.column
    let before :=
      match indent with
      | some n => c.column < n
      | none => true
    check (!(before && c.has (· = '\t') 0))
    if c.has isBreak 0 then
      set c.skipBreak
      let (breaks, widest) ← blockBreaks indent bound widest
      return (c.breakText ++ breaks, widest)
    else return ([], widest)

/-- What joins two lines of a block scalar. -/
def blockJoint (literal leadingBlank trailingBlank : Bool) (first others : List Char) : List Char :=
  if !literal && first = ['\n'] && !leadingBlank && !trailingBlank then
    (if others.isEmpty then [' '] else others)
  else first ++ others

/-- The lines of a block scalar at an indentation. The answer holds the text, the last line break,
and the line breaks after it. -/
def blockLines (literal : Bool) (indent : Nat) :
    Nat → Bool → List Char → List Char → Scan (List Char × List Char × List Char)
  | 0, _, _, _ => failure
  | bound + 1, leadingBlank, first, others => do
    let c ← get
    if c.column = indent && !c.rest.isEmpty then
      let blank := c.has isBlank 0
      let line ← takeMany (!isBreak ·)
      let c ← get
      if !c.rest.isEmpty then set c.skipBreak
      let (breaks, _) ← blockBreaks (some indent) (c.rest.length + 1) 0
      let (text, first', others') ← blockLines literal indent bound blank c.breakText breaks
      return (blockJoint literal leadingBlank blank first others ++ line ++ text, first', others')
    else return ([], first, others)

/-- A block scalar inside a block at some indentation. -/
def blockScalar (literal : Bool) (outer : Int) : Scan String := do
  skip
  let (chomping, indicator) ← blockHeader
  let _ ← takeMany isBlank
  skipComment
  let c ← get
  check (c.lineEnds 0)
  if !c.rest.isEmpty then set c.skipBreak
  let bound := c.rest.length + 1
  let wanted := indicator.map fun n => if 0 ≤ outer then outer.toNat + n else n
  let (breaks, widest) ← blockBreaks wanted bound 0
  let indent := wanted.getD (max (max widest (outer + 1).toNat) 1)
  let (text, first, others) ← blockLines literal indent bound false [] breaks
  let tail :=
    match chomping with
    | .strip => []
    | .clip => first
    | .keep => first ++ others
  return String.ofList (text ++ tail)

end Concretize.Yaml
