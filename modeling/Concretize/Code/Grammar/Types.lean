import Concretize.Code.Grammar.Basic

/-!
# Rules for types

Paths with arguments, bounds, the lists of generic parameters, and types.
-/
namespace Concretize.Code.Grammar

open Rule

/-- Code as parts of a compound. -/
def plainly (r : Rule Code) : Rule (List Piece) := do return (← r).map .token

/-- A type as a part of a compound. -/
def typePiece (g : Grammar) (plus : Bool) : Rule (List Piece) := do return [.type (← g.type plus)]

/-- A group whose inside is made of parts. -/
def groupPiece (d : Delimiter) (r : Rule (List Piece)) : Rule (List Piece) := do
  return [.group d (← inside d r)]

/-- A type as code. -/
def typeCode (g : Grammar) : Rule Code := do return (← g.type true).code

/-- Items with `+` between them, until the tokens ahead say that the list is over or no `+` follows.
-/
def sum {α : Type} (ends : Look) (plus item : Rule (List α)) : Rule (List α) :=
  chain ends (Look.op "+") plus item

/-! ## Paths -/

/-- Whether arguments in angle brackets follow the name of a segment. In an expression they need
`::` before them. -/
def appliesArguments (inExpression : Bool) : Look := fun code =>
  (!inExpression && Look.op "<" code && !Look.op "<=" code && !Look.op "<<=" code) ||
    (Look.op "::" code && Look.third (Look.op "<") code)

/-- A constant as an argument. -/
def constant (g : Grammar) : Rule Code := do
  if ← ahead Look.literal then literal
  else if ← ahead Look.name then nameCode
  else g.block

/-- What is said about an associated item after its name: its value or its bounds. -/
def associated (g : Grammar) : Rule (List Piece) := do
  if ← ahead (Look.op "=") then
    let equals ← plainly (op "=")
    if (← ahead Look.literal) || (← ahead (Look.group .curly)) then
      return equals ++ (← plainly g.constant)
    return equals ++ (← g.typePiece true)
  plainly (op ":") ++ sum (Look.oneOp [",", ">"]) (plainly (op "+")) (g.bound false true)

/-- An argument in angle brackets. -/
def argument (g : Grammar) : Rule Argument := do
  let rest ← get
  if Look.lifetime rest && !Look.second (Look.op "+") rest then
    let _ ← token
    return .lifetime (← anyWord)
  if Look.literal rest || Look.group .curly rest then return .other (← plainly g.constant)
  match ← g.type true with
  | .path false [s] =>
    if ← ahead (Look.oneOp ["=", ":"]) then
      let front : Piece := if s.isPlain then .token (.word s.name) else .type (.path false [s])
      return .other (front :: (← g.associated))
    return .type (.path false [s])
  | t => return .type t

/-- Puts lifetimes before all else in a list in angle brackets. A lifetime that stood last leaves its
comma to what stands last now. -/
def lifetimesFirst {α : Type} (isLifetime : α → Bool) (list : List α) (trailing : Bool) :
    List α × Bool :=
  let (lifetimes, others) := list.partition isLifetime
  let moved := !others.isEmpty && ((list.getLast?.map isLifetime).getD false)
  (lifetimes ++ others, trailing || moved)

/-- Whether an argument is a lifetime. -/
def isLifetime : Argument → Bool
  | .lifetime _ => true
  | _ => false

/-- Arguments in angle brackets, after the name that they are applied to. -/
def applied (g : Grammar) (name : String) : Rule Segment := do
  let turbofish ← optionalOp "::"
  let _ ← op "<"
  let (arguments, trailing) ← listed (Look.op ">") g.argument
  let _ ← op ">"
  let (arguments, trailing) := lifetimesFirst isLifetime arguments trailing
  return .applied name (!turbofish.isEmpty) arguments trailing

/-- Arguments in angle brackets, as code. -/
def angled (g : Grammar) : Rule Code := do return (← g.applied "").code.tail

/-- A segment of a path. -/
def segment (g : Grammar) (inExpression : Bool) : Rule Segment := do
  if ← ahead (Look.oneOf ["super", "self", "crate", "try"]) then return .plain (← anyWord)
  let name ← if ← ahead (Look.word "Self") then anyWord else name
  if ← ahead (appliesArguments inExpression) then g.applied name else return .plain name

/-- Segments of a path, at most so many. A `::` before parentheses does not belong to it. -/
def segmentsUpTo (item : Rule Segment) (parentheses : Bool) : Nat → Rule (List Segment)
  | 0 => failure
  | n + 1 => do
    let first ← item
    let rest ← get
    if Look.op "::" rest && (parentheses || !Look.third (Look.group .round) rest) then
      let _ ← op "::"
      return first :: (← segmentsUpTo item parentheses n)
    return [first]

/-- A path with arguments: whether it begins with `::`, and its segments. -/
def path (g : Grammar) (inExpression : Bool) : Rule (Bool × List Segment) := do
  let leading ← optionalOp "::"
  let segments ← segmentsUpTo (g.segment inExpression) false ((← get).length + 1)
  return (!leading.isEmpty, segments)

/-- A path that begins with a type in angle brackets, perhaps seen as a trait. -/
def qualified (g : Grammar) (inExpression : Bool) : Rule (List Piece) := do
  let opening ← plainly (op "<")
  let self ← g.typePiece true
  let seen ← maybe (Look.word "as") do
    let keyword ← plainly (word "as")
    let (leading, segments) ← g.path false
    return keyword ++ [.type (.path leading segments)]
  let closing ← plainly (op ">")
  let _ ← op "::"
  let rest ← segmentsUpTo (g.segment inExpression) true ((← get).length + 1)
  return opening ++ self ++ seen ++ closing ++ [.type (.path true rest)]

/-! ## Bounds and generic parameters -/

/-- A bound as code. -/
def boundCode (g : Grammar) : Rule Code := do return piecesCode (← g.bound false true)

/-- Bounds after a colon. Without any, the colon is dropped. -/
def afterColon (bounds : Rule Code) : Rule Code := maybe (Look.op ":") do
  let colon ← op ":"
  let list ← bounds
  return if list.isEmpty then [] else colon ++ list

/-- A parameter of a type, a function or a binder, after its attributes. -/
def parameterRest (g : Grammar) : Rule Code := do
  if ← ahead Look.lifetime then
    lifetime ++ afterColon (sum (Look.oneOp [",", ">"]) (op "+") lifetime)
  else if ← ahead (Look.word "const") then
    word "const" ++ nameCode ++ op ":" ++ g.typeCode ++ maybe (Look.op "=") (op "=" ++ g.constant)
  else
    nameCode ++ afterColon (sum (Look.oneOp [",", ">", "="]) (op "+") g.boundCode) ++
      maybe (Look.op "=") (op "=" ++ g.typeCode)

/-- A parameter of a binder. -/
def parameter (g : Grammar) : Rule Code := g.attributesCode ++ g.parameterRest

/-- The parameters of a binder, in angle brackets. -/
def parameters (g : Grammar) : Rule Code :=
  op "<" ++ separated (Look.op ">") (op ",") g.parameter ++ op ">"

/-- The parameters that a bound or a function type brings along, often none. -/
def binder (g : Grammar) : Rule Code := maybe (Look.word "for") (word "for" ++ g.parameters)

/-- What a function type or a bound in the style of a function answers. -/
def result (g : Grammar) (plus : Bool) : Rule (List Piece) :=
  maybe (Look.op "->") (plainly (op "->") ++ g.typePiece plus)

/-- The parameter types of a bound in the style of a function. -/
def parenthesizedArguments (g : Grammar) : Rule (List Piece) :=
  groupPiece .round (separated Look.nothing (plainly (op ",")) (g.typePiece true)) ++ g.result false

/-- The last segment of a path, with arguments in the style of a function if it takes them. -/
def callable (g : Grammar) : List Segment → Rule (List Segment)
  | [.plain name] => do
    let rest ← get
    if Look.group .round rest || (Look.op "::" rest && Look.third (Look.group .round) rest) then
      let _ ← optionalOp "::"
      return [.called name (← g.parenthesizedArguments)]
    return [.plain name]
  | [] => return []
  | s :: rest => do return s :: (← g.callable rest)

/-- The trait that a bound names. -/
def boundPath (g : Grammar) : Rule (List Piece) := do
  let (leading, segments) ← g.path false
  return [.type (.path leading (← g.callable segments))]

/-- A mark that a trait holds in constant code. -/
def constantMark : Rule Code := do
  let rest ← get
  if Look.op "~" rest && Look.second (Look.word "const") rest then op "~" ++ word "const"
  else if Look.group .square rest then grouped .square (word "const")
  else optionalWord "const"

/-- A bound by a trait, without parentheses. -/
def traitBound (g : Grammar) (constants : Bool) : Rule (List Piece) := do
  let first ← plainly g.binder
  let mark ← plainly constantMark
  check (constants || mark.isEmpty)
  let relaxed ← plainly (optionalOp "?")
  let binder ← if first.isEmpty && !relaxed.isEmpty then plainly g.binder else pure first
  let path ← g.boundPath
  return if mark.isEmpty then relaxed ++ binder ++ path else binder ++ mark ++ relaxed ++ path

/-- The parameters that an abstract type captures. -/
def captured : Rule Code :=
  word "use" ++ op "<" ++
    separated (Look.op ">") (op ",")
      (do if ← ahead Look.lifetime then lifetime
          else if ← ahead (Look.word "Self") then wordCode else nameCode) ++
    op ">"

/-- A bound. -/
def anyBound (g : Grammar) (captures constants : Bool) : Rule (List Piece) := do
  if ← ahead Look.lifetime then plainly lifetime
  else if ← ahead (Look.word "use") then
    check captures
    plainly captured
  else if ← ahead (Look.group .round) then
    groupPiece .round (g.traitBound constants)
  else g.traitBound constants

/-- Bounds with `+` between them. With `plus` there may be several. -/
def bounds (g : Grammar) (plus captures constants : Bool) : Rule (List Piece) := do
  let first ← g.bound captures constants
  if !plus then return first
  let rest ← get
  return first ++ (← moreBounds captures constants rest.length)
where
  /-- What may begin another bound. -/
  begins : Look := fun code =>
    Look.anyWord code || Look.oneOp ["::", "?"] code || Look.lifetime code ||
      Look.group .round code || Look.group .square code
  /-- Further bounds, each after a `+`; at most so many. -/
  moreBounds (captures constants : Bool) : Nat → Rule (List Piece)
    | 0 => return []
    | n + 1 => maybe (Look.op "+") do
      let plus ← plainly (op "+")
      if ← ahead begins then
        return plus ++ (← g.bound captures constants) ++ (← moreBounds captures constants n)
      return plus

/-- Conditions on generic parameters. -/
def conditions (g : Grammar) : Rule Code := do
  if !(← ahead (Look.word "where")) then return []
  let keyword ← word "where"
  let list ← chain ends (Look.op ",") (op ",") predicate
  return if list.isEmpty then [] else keyword ++ list
where
  /-- No condition comes next. -/
  ends : Look := fun code =>
    Look.nothing code || Look.group .curly code || Look.oneOp [",", ";", "="] code ||
      Look.colon code
  /-- A condition on a lifetime or a type. -/
  predicate : Rule Code := do
    let rest ← get
    if Look.lifetime rest && Look.second (Look.op ":") rest then
      lifetime ++ op ":" ++ sum ends (op "+") lifetime
    else g.binder ++ g.typeCode ++ op ":" ++ sum ends (op "+") g.boundCode

/-- A generic parameter, and whether it is a lifetime. One without a name has no bounds. -/
def genericParameter (g : Grammar) : Rule (Bool × Code) := do
  let front ← g.attributesCode
  let lifetime ← ahead Look.lifetime
  let parameter ← if ← ahead (Look.word "_") then wordCode else g.parameterRest
  return (lifetime, front ++ parameter)

/-- Generic parameters, often none. Empty angle brackets are dropped. -/
def generics (g : Grammar) : Rule Code := maybe (Look.op "<") do
  let opening ← op "<"
  let (parameters, trailing) ← listed (Look.op ">") g.genericParameter
  let closing ← op ">"
  let (parameters, trailing) := lifetimesFirst Prod.fst parameters trailing
  return if parameters.isEmpty then []
    else opening ++ withCommas trailing (parameters.map Prod.snd) ++ closing

/-! ## Types -/

/-- Whether bounds name a trait at all; lifetimes and captured parameters are mere tokens. -/
def nameTrait (pieces : List Piece) : Bool :=
  pieces.any fun
    | .token _ => false
    | _ => true

/-- Bounds of a type, among which there has to be a trait. -/
def traits (g : Grammar) (plus captures constants : Bool) : Rule (List Piece) := do
  let pieces ← g.bounds plus captures constants
  check (nameTrait pieces)
  return pieces

/-- The name of the binary interface of a function. -/
def interface : Rule Code :=
  maybe (Look.word "extern") (word "extern" ++ maybe isText token)
where
  /-- A text comes next. -/
  isText : Look
    | .literal text :: _ => text.startsWith "\"" || text.startsWith "r"
    | _ => false

/-- A parameter of a function type: a type, perhaps after a name, or an untyped `mut self`. Only the
first one may be called `self`. -/
def functionParameter (g : Grammar) (first : Bool) : Rule (List Piece) := do
  let front ← plainly g.attributesCode
  let rest ← get
  let mutable := first && Look.word "mut" rest && Look.second (Look.word "self") rest
  let keyword ← plainly (if mutable then word "mut" else return [])
  let rest ← get
  let named := (Look.name rest || Look.word "_" rest || (first && Look.word "self" rest)) &&
    Look.second Look.colon rest
  let name ← plainly (if named then wordCode ++ op ":" else return [])
  let type ← if mutable && !named then plainly (word "self") else g.typePiece true
  return front ++ keyword ++ name ++ type

/-- The mark of a variable number of arguments, perhaps after a name. -/
def variadic : Rule Code := do
  let name ← if ← ahead Look.anyWord then wordCode ++ op ":" else pure []
  return name ++ (← op "...") ++ (← optionalOp ",")

/-- Whether the parameters of a function type end in a variable number of arguments. -/
def isVariadic : Look := fun code =>
  Look.op "..." code || ((Look.name code || Look.word "_" code) && Look.second (Look.op ":") code &&
    Look.third (Look.op "...") code)

/-- The parameters of a function type, at most so many. -/
def functionParametersUpTo (g : Grammar) (first : Bool) : Nat → Rule (List Piece)
  | 0 => return []
  | n + 1 => do
    if ← ahead Look.nothing then return []
    let front ← plainly g.attributesCode
    if ← ahead isVariadic then return front ++ (← plainly variadic)
    let parameter ← g.functionParameter first
    if ← ahead Look.nothing then return front ++ parameter
    return front ++ parameter ++ (← plainly (op ",")) ++ (← functionParametersUpTo g false n)

/-- A function type after its binder. -/
def functionType (g : Grammar) : Rule (List Piece) :=
  plainly (optionalWord "unsafe" ++ interface ++ word "fn") ++
    groupPiece .round (do functionParametersUpTo g true ((← get).length + 1)) ++ g.result false

/-- Whether no segment of a path has arguments. -/
def isBare (segments : List Segment) : Bool := segments.all Segment.isPlain

/-- Whether a path is the name of a code template that is called. -/
def callsTemplate (segments : List Segment) : Look := fun code =>
  Look.op "!" code && !Look.op "!=" code && isBare segments

/-- A type that begins with a path, after its binder. -/
def pathType (g : Grammar) (plus : Bool) (binder : List Piece) : Rule TypeForm := do
  if ← ahead (Look.op "<") then return .compound (← g.qualified false)
  let (leading, segments) ← g.path false
  let path := TypeForm.path leading segments
  if ← ahead (callsTemplate segments) then
    return .compound (.type path :: (← plainly (op "!" ++ anyGroup)))
  let bounded := plus && (← ahead (Look.op "+"))
  if binder.isEmpty && !bounded then return path
  let first := binder ++ [.type path]
  if !bounded then return .compound first
  return .compound (first ++ (← bounds.moreBounds g false true (← get).length))

/-- Whether a type is a lone trait, to which bounds can be added. -/
def isLoneTrait : TypeForm → Bool
  | .path .. => true
  | .paren _ => false
  | .compound pieces =>
    match pieces.head?, pieces.getLast? with
    | some (.token (.word "for")), some (.type _) => !nameTrait pieces.dropLast
    | _, _ => false

/-- Bounds that are added to a trait in parentheses. -/
def addedBounds (g : Grammar) : Rule (List Piece) :=
  repeatWhile (Look.op "+") (plainly (op "+") ++ g.bound true true)

/-- One type, or several with commas between them; the flag tells which. -/
def elements (g : Grammar) : Rule (TypeForm × List Piece × Bool) := do
  let first ← g.type true
  if ← ahead (Look.op ",") then
    let rest ← plainly (op ",") ++ separated Look.nothing (plainly (op ",")) (g.typePiece true)
    return (first, rest, true)
  return (first, [], false)

/-- What parentheses hold: nothing, a type, several types, or a bound. -/
def parenthesized (g : Grammar) (plus : Bool) (inner : Code) : Rule TypeForm := do
  if inner.isEmpty then return .compound (← plainly token)
  if Look.lifetime inner then
    return .paren (.compound (← inside .round (g.traits true false false)))
  if Look.op "?" inner then
    return .compound (← groupPiece .round (g.traitBound false) ++ g.addedBounds)
  let (first, rest, several) ← inside .round g.elements
  if several then return .compound [.group .round (.type first :: rest)]
  if plus && isLoneTrait first && (← ahead (Look.op "+")) then
    return .compound (.group .round [.type first] :: (← g.addedBounds))
  return .paren first

/-- The inside of an array or slice type. -/
def arrayContent (g : Grammar) : Rule (List Piece) :=
  g.typePiece true ++ plainly (maybe (Look.op ";") (op ";" ++ g.expression true))

/-- What a pointer says of its target. -/
def pointerMark : Rule Code := do
  expect (Look.oneOf ["const", "mut"])
  token

/-- A type that is a compound from its first token on. -/
def compoundType (g : Grammar) (plus : Bool) : Rule (List Piece) := do
  let rest ← get
  if Look.word "dyn" rest then
    plainly (word "dyn" ++ optionalOp "*") ++ g.traits plus false false
  else if Look.word "impl" rest then plainly (word "impl") ++ g.traits plus true true
  else if Look.lifetime rest then g.traits true false false
  else if Look.group .square rest then groupPiece .square g.arrayContent
  else if Look.op "*" rest then
    plainly (op "*") ++ plainly pointerMark ++ g.typePiece false
  else if Look.op "&" rest then
    plainly (op "&" ++ maybe Look.lifetime lifetime ++ optionalWord "mut") ++ g.typePiece false
  else if Look.op "!" rest then plainly (op "!")
  else plainly (word "_")

/-- A type. With `plus`, bounds may be added to a trait. -/
def anyType (g : Grammar) (plus : Bool) : Rule TypeForm := do
  let binder ← plainly g.binder
  match ← get with
  | .group .round inner :: _ =>
    if binder.isEmpty then g.parenthesized plus inner else failure
  | rest =>
    if Look.oneOf ["fn", "unsafe", "extern"] rest then
      return .compound (binder ++ (← g.functionType))
    if Look.pathWord rest || (binder.isEmpty && Look.oneOp ["::", "<"] rest) then
      return ← g.pathType plus binder
    check binder.isEmpty
    return .compound (← g.compoundType plus)

end Concretize.Code.Grammar
