import Concretize.Code.Grammar.Patterns

/-!
# Rules for expressions

Binary operators bind by precedence; comparisons cannot be chained, and nothing binds a range. Where
a block has to follow, no struct literal may stand (`literals` is false).
-/
namespace Concretize.Code.Grammar

open Rule

/-! ## Operators -/

/-- The precedence of assignments. -/
def assignment : Nat := 1
/-- The precedence of ranges. -/
def ranging : Nat := 2
/-- The precedence of comparisons. -/
def comparing : Nat := 6
/-- The precedence of casts. -/
def casting : Nat := 13

/-- The binary operators with their precedences; longer ones stand before their beginnings. -/
def binaryOps : List (String × Nat) :=
  [("+=", 1), ("-=", 1), ("*=", 1), ("/=", 1), ("%=", 1), ("^=", 1), ("&=", 1), ("|=", 1),
   ("<<=", 1), (">>=", 1), ("&&", 4), ("||", 3), ("<<", 10), (">>", 10), ("==", 6), ("<=", 6),
   ("!=", 6), (">=", 6), ("+", 11), ("-", 11), ("*", 12), ("/", 12), ("%", 12), ("^", 8), ("&", 9),
   ("|", 7), ("<", 6), (">", 6)]

/-- The binary operator that comes next. -/
def binary? (code : Code) : Option (String × Nat) := binaryOps.find? fun o => Look.op o.1 code

/-- A plain assignment comes next. -/
def isAssignment : Look := fun code => Look.op "=" code && !Look.op "=>" code

/-- The precedence of what comes next, zero if it is no operator. -/
def precedence (code : Code) : Nat :=
  match binary? code with
  | some (_, level) => level
  | none =>
    if isAssignment code then assignment
    else if Look.op ".." code then ranging
    else if Look.word "as" code then casting
    else 0

/-- What cannot follow a cast comes next. -/
def followsNoCast : Look := fun code =>
  (Look.op "." code && !Look.op ".." code) || Look.op "?" code || Look.group .square code ||
    Look.group .round code

/-- What leaves a range without an end comes next. -/
def endsRange (literals : Bool) : Look := fun code =>
  Look.nothing code || Look.oneOp [",", ";", "?", "=>", "=", "+", "/", "%", "^", ">", "<=", "!=",
      "-=", "*=", "&=", "|=", "<<="] code ||
    (Look.op "." code && !Look.op ".." code) || (!literals && Look.group .curly code) ||
    Look.word "as" code

mutual

/-- Goes on after `left` with the operators that bind at least as strongly as `base`. -/
def operationsUpTo (g : Grammar) (literals : Bool) : Nat → Term → Nat → Rule Term
  | 0, left, _ => return left
  | n + 1, left, base => do
    if left.shape = .range then return left
    let rest ← get
    match binary? rest with
    | some (sign, level) =>
      if level < base then return left
      check !(level = comparing && left.shape = .comparison)
      let sign ← op sign
      let right ← g.operand literals
      let right ← extendUpTo g literals n right level
      let shape := if level = comparing then .comparison else .other
      operationsUpTo g literals n ⟨shape, left.code ++ sign ++ right.code⟩ base
    | none =>
      if base ≤ assignment && isAssignment rest then
        let sign ← op "="
        let right ← g.operand literals
        let right ← extendUpTo g literals n right assignment
        operationsUpTo g literals n ⟨.other, left.code ++ sign ++ right.code⟩ base
      else if base ≤ ranging && Look.op ".." rest then
        return ⟨.range, left.code ++ (← rangeUpTo g literals n)⟩
      else if base ≤ casting && Look.word "as" rest then
        let sign ← word "as"
        let type ← g.type false
        check !(followsNoCast (← get))
        operationsUpTo g literals n ⟨.other, left.code ++ sign ++ type.code⟩ base
      else return left

/-- Goes on after the right side of an operator with all that binds it more strongly. -/
def extendUpTo (g : Grammar) (literals : Bool) : Nat → Term → Nat → Rule Term
  | 0, right, _ => return right
  | n + 1, right, level => do
    let rest ← get
    let following := precedence rest
    if level < following || (following = level && level = assignment) then
      let longer ← operationsUpTo g literals n right following
      if (← get).length = rest.length then return longer
      extendUpTo g literals n longer level
    else return right

/-- The dots of a range and its end, if it has one. -/
def rangeUpTo (g : Grammar) (literals : Bool) : Nat → Rule Code
  | 0 => failure
  | n + 1 => do
    check !(Look.op "..." (← get))
    let dots ← rangeDots
    if dots.length = 2 && (← ahead (endsRange literals)) then return dots
    let right ← g.operand literals
    return dots ++ (← extendUpTo g literals n right ranging).code

end

/-- Enough steps for all operators of the code ahead. -/
def steps : Rule Nat := do return 2 * (← get).length + 2

/-- Goes on after `left` with the operators that bind at least as strongly as `base`. -/
def operations (g : Grammar) (literals : Bool) (left : Term) (base : Nat) : Rule Term := do
  operationsUpTo g literals (← steps) left base

/-! ## What stands after an expression -/

/-- Arguments of a call. -/
def callArguments (g : Grammar) : Rule Code := grouped .round (commas (g.expression true))

/-- Two positions that are written like one number with a point; `none` if it is another number. A
point at its end is that of the next field. -/
def positions? (literal : String) : Option (Code × Bool) := do
  let trailing := literal.endsWith "."
  let parts := (literal.splitOn ".").filter (· ≠ "")
  let codes ← parts.mapM fun part => do
    let n ← index? part
    if n < positionLimit then return ofOperator ['.'] ++ [.literal (toString n)] else none
  return (codes.flatten ++ (if trailing then ofOperator ['.'] else []), trailing)

/-- A number with a point or an exponent comes next. -/
def isFloat : Look
  | .literal text :: _ => (Text.Reader.readAll Literal.float text.toList).isSome
  | _ => false

/-- A field or a method after its point. -/
def selection (g : Grammar) : Rule Code := do
  if ← ahead (Look.word "await") then return ← token
  let named ← ahead Look.name
  let field ← member
  let turbofish ← if named && (← ahead (Look.op "::")) then g.angled else pure []
  if named && (!turbofish.isEmpty || (← ahead (Look.group .round))) then
    return field ++ turbofish ++ (← g.callArguments)
  check turbofish.isEmpty
  return field

/-- What is selected after a point, the point included. -/
def selected (g : Grammar) : Rule Code := do
  let point ← op "."
  match ← get with
  | .literal text :: rest =>
    if !(← ahead isFloat) then return point ++ (← g.selection)
    match positions? text with
    | some (code, trailing) =>
      set rest
      if trailing then return code ++ (← g.selection) else return code
    | none => failure
  | _ => return point ++ (← g.selection)

/-- Calls, fields, indices and question marks after an expression; at most so many. -/
def trailersUpTo (g : Grammar) : Nat → Term → Rule Term
  | 0, term => return term
  | n + 1, term => do
    let rest ← get
    let unended := term.shape = .range
    if Look.group .round rest then
      trailersUpTo g n ⟨.other, term.code ++ (← g.callArguments)⟩
    else if Look.op "." rest && !Look.op ".." rest && !unended then
      trailersUpTo g n ⟨.other, term.code ++ (← g.selected)⟩
    else if Look.group .square rest then
      trailersUpTo g n ⟨.other, term.code ++ (← grouped .square (g.expression true))⟩
    else if Look.op "?" rest && !unended then
      trailersUpTo g n ⟨.other, term.code ++ (← op "?")⟩
    else return term

/-- Calls, fields, indices and question marks after an expression. -/
def trailers (g : Grammar) (term : Term) : Rule Term := do
  trailersUpTo g (← get).length term

/-! ## Blocks -/

/-- A condition, which a block follows. -/
def condition (g : Grammar) : Rule Code := g.expression false

/-- A choice, at most so many times. -/
def choiceUpTo (g : Grammar) : Nat → Rule Code
  | 0 => failure
  | n + 1 => do
    let first ← word "if" ++ g.condition ++ g.block
    if !(← ahead (Look.word "else")) then return first
    let otherwise ← word "else"
    if ← ahead (Look.word "if") then return first ++ otherwise ++ (← choiceUpTo g n)
    return first ++ otherwise ++ (← g.block)

/-- An arm of a match, whose expression ends in a block or with a comma. -/
def arm (g : Grammar) : Rule Code := do
  let front ← g.attributesCode ++ g.alternatives ++
    maybe (Look.word "if") (word "if" ++ g.expression true) ++ op "=>"
  let body ← g.body
  let comma ← if body.shape = .block || (← ahead Look.nothing) then optionalOp "," else op ","
  return front ++ body.code ++ comma

/-- A match after its keyword. -/
def matching (g : Grammar) : Rule Code :=
  word "match" ++ g.condition ++
    grouped .curly (g.innerAttributes ++ repeatWhile (fun code => !Look.nothing code) g.arm)

/-- A loop after its label. -/
def loop (g : Grammar) : Rule Code := do
  if ← ahead (Look.word "while") then word "while" ++ g.condition ++ g.block
  else if ← ahead (Look.word "for") then
    word "for" ++ g.alternatives ++ word "in" ++ g.condition ++ g.block
  else word "loop" ++ g.block

/-- A loop or a block after a label. -/
def labelled (g : Grammar) : Rule Code :=
  lifetime ++ op ":" ++ do if ← ahead (Look.group .curly) then g.block else g.loop

/-- The binder of a closure comes next, and not a loop. -/
def isClosureBinder : Look := fun code =>
  Look.word "for" code && Look.second (Look.op "<") code &&
    (Look.third Look.lifetime code || Look.third (Look.op ">") code)

/-- An expression that begins with a block, and so ends with it, comes next. -/
def isBlockTerm : Look := fun code =>
  Look.oneOf ["if", "while", "loop", "match", "unsafe"] code || Look.group .curly code ||
    (Look.word "for" code && !isClosureBinder code) ||
    ((Look.word "try" code || Look.word "const" code) && Look.second (Look.group .curly) code) ||
    Look.lifetime code

/-- An expression that ends with its block. -/
def blockTerm (g : Grammar) : Rule Term := do
  let rest ← get
  let code ←
    if Look.word "if" rest then choiceUpTo g rest.length
    else if Look.word "match" rest then g.matching
    else if Look.oneOf ["while", "for", "loop"] rest then g.loop
    else if Look.lifetime rest then g.labelled
    else if Look.group .curly rest then g.block
    else token ++ g.block
  return ⟨.block, code⟩

/-! ## Expressions without operators -/

/-- A parameter of a closure. -/
def closureParameter (g : Grammar) : Rule Code :=
  g.attributesCode ++ g.pattern ++ maybe (Look.op ":") (op ":" ++ g.typeCode)

/-- A closure. One that tells its result has a block. -/
def closure (g : Grammar) (literals : Bool) : Rule Code := do
  let front ← g.binder ++ optionalWord "const" ++ optionalWord "static" ++ optionalWord "async" ++
    optionalWord "move" ++ op "|" ++ separated (Look.op "|") (op ",") g.closureParameter ++ op "|"
  if ← ahead (Look.op "->") then return front ++ (← op "->") ++ (← g.typeCode) ++ (← g.block)
  return front ++ (← g.expression literals)

/-- A closure comes next. -/
def isClosure : Look := fun code =>
  Look.op "|" code || Look.oneOf ["move", "static"] code || isClosureBinder code ||
    (Look.word "const" code && !Look.second (Look.group .curly) code) ||
    (Look.word "async" code &&
      (Look.second (Look.op "|") code || Look.second (Look.word "move") code))

/-- A block that runs on its own comes next. -/
def isAsyncBlock : Look := fun code =>
  Look.word "async" code && (Look.second (Look.group .curly) code ||
    (Look.second (Look.word "move") code && Look.third (Look.group .curly) code))

/-- A field of a struct literal. -/
def fieldValue (g : Grammar) : Rule Code := do
  let front ← g.attributesCode
  let named ← ahead Look.name
  let field ← member
  if named && !(← ahead (Look.op ":")) then return front ++ field
  return front ++ field ++ (← op ":") ++ (← g.expression true)

/-- The fields of a struct literal, at most so many. -/
def fieldValuesUpTo (g : Grammar) : Nat → Rule Code
  | 0 => return []
  | n + 1 => do
    if ← ahead Look.nothing then return []
    if ← ahead (Look.op "..") then
      let dots ← op ".."
      if ← ahead Look.nothing then return dots
      return dots ++ (← g.expression true)
    let field ← g.fieldValue
    if ← ahead Look.nothing then return field
    return field ++ (← op ",") ++ (← fieldValuesUpTo g n)

/-- A path, a struct literal or the call of a code template. -/
def pathTerm (g : Grammar) (literals : Bool) : Rule Term := do
  let (path, callable) ← g.valuePath
  if callable && (← ahead isCall) then
    let call ← op "!" ++ anyGroup
    let shape := if Look.group .curly (call.drop 1) then .curlyCall else .other
    return ⟨shape, path ++ call⟩
  if literals && (← ahead (Look.group .curly)) then
    return ⟨.other, path ++ (← grouped .curly do fieldValuesUpTo g ((← get).length + 1))⟩
  return ⟨.other, path⟩

/-- The inside of an array: elements, or an element and a length. -/
def arrayElements (g : Grammar) : Rule Code := do
  if ← ahead Look.nothing then return []
  let first ← g.expression true
  if ← ahead (Look.op ";") then return first ++ (← op ";") ++ (← g.expression true)
  if ← ahead Look.nothing then return first
  return first ++ (← op ",") ++ (← commas (g.expression true))

/-- What an expression can begin with comes next. -/
def beginsExpression : Look := fun code =>
  (Look.anyWord code && !Look.word "as" code) || Look.group .round code ||
    Look.group .square code || Look.group .curly code || Look.literal code ||
    (Look.op "!" code && !Look.op "!=" code) ||
    (Look.op "-" code && !Look.op "-=" code && !Look.op "->" code) ||
    (Look.op "*" code && !Look.op "*=" code) || (Look.op "|" code && !Look.op "|=" code) ||
    (Look.op "&" code && !Look.op "&=" code) || Look.oneOp ["..", "::", "#"] code ||
    (Look.op "<" code && !Look.op "<=" code && !Look.op "<<=" code) || Look.lifetime code

/-- Leaving a loop, perhaps with a value. A label that a colon follows is refused. -/
def leaving (g : Grammar) (literals : Bool) : Rule Code := do
  let front ← word "break" ++ maybe Look.lifetime lifetime
  check (front.length = 1 || !(← ahead (Look.op ":")))
  let rest ← get
  if beginsExpression rest && (literals || !Look.group .curly rest) then
    return front ++ (← g.expression literals)
  return front

/-- A keyword with an expression that may be missing. -/
def answering (g : Grammar) : Rule Code := token ++ maybe beginsExpression (g.expression true)

/-- A condition that a pattern matches. -/
def letting (g : Grammar) (literals : Bool) : Rule Code := do
  let front ← word "let" ++ g.alternatives ++ op "="
  let value ← g.operations literals (← g.operand literals) comparing
  return front ++ value.code

/-- An expression that is built into the language. -/
def builtin : Rule Code := wordCode ++ op "#" ++ nameCode ++ anyGroup

/-- An expression without operators around it. -/
def atom (g : Grammar) (literals : Bool) : Rule Term := do
  let rest ← get
  let other (r : Rule Code) : Rule Term := do return ⟨.other, ← r⟩
  if Look.literal rest then other literal
  else if isAsyncBlock rest then other (word "async" ++ optionalWord "move" ++ g.block)
  else if Look.word "try" rest && Look.second (Look.group .curly) rest then g.blockTerm
  else if isClosure rest then other (g.closure literals)
  else if Look.word "builtin" rest && Look.second (Look.op "#") rest then other builtin
  else if Look.pathWord rest || Look.oneOp ["::", "<"] rest ||
      (Look.word "try" rest && Look.second (Look.oneOp ["!", "::"]) rest) then g.pathTerm literals
  else if Look.group .round rest then other (grouped .round (commas (g.expression true)))
  else if Look.word "break" rest then other (g.leaving literals)
  else if Look.word "continue" rest then other (token ++ maybe Look.lifetime lifetime)
  else if Look.oneOf ["return", "yield"] rest then other g.answering
  else if Look.word "become" rest then other (token ++ g.expression true)
  else if Look.group .square rest then other (grouped .square g.arrayElements)
  else if Look.word "let" rest then other (g.letting literals)
  else if isBlockTerm rest then g.blockTerm
  else if Look.op ".." rest then return ⟨.range, ← rangeUpTo g literals (← steps)⟩
  else other (word "_")

/-- An expression without binary operators. -/
def anyOperand (g : Grammar) (literals : Bool) : Rule Term := do
  let front ← g.attributesCode
  let rest ← get
  if Look.op "&" rest then
    let raw := Look.second (Look.word "raw") rest &&
      Look.third (Look.oneOf ["mut", "const"]) rest
    let sign ← op "&" ++ (if raw then token ++ token else optionalWord "mut")
    return ⟨.other, front ++ sign ++ (← g.operand literals).code⟩
  if Look.oneOp ["*", "!", "-"] rest then
    let sign ← anyOp ["*", "!", "-"]
    return ⟨.other, front ++ sign ++ (← g.operand literals).code⟩
  let term ← g.trailers (← g.atom literals)
  return { term with code := front ++ term.code }

/-- An expression. -/
def anyExpression (g : Grammar) (literals : Bool) : Rule Code := do
  return (← g.operations literals (← g.operand literals) 0).code

/-- An expression as a statement or a match arm. -/
def anyBody (g : Grammar) : Rule Term := do
  let front ← g.attributesCode
  if !(← ahead isBlockTerm) then
    let term ← g.operations true (← g.operand true) 0
    return { term with code := front ++ term.code }
  let term ← g.blockTerm
  let rest ← get
  if (Look.op "." rest && !Look.op ".." rest) || Look.op "?" rest then
    let term ← g.operations true (← g.trailers term) 0
    return { term with code := front ++ term.code }
  return { term with code := front ++ term.code }

end Concretize.Code.Grammar
