import Concretize.Code.Grammar.Data

/-!
# Rules for items and statements

Everything that can stand in a module, in an implementation, in a trait, in a foreign block and in
the body of a function.
-/
namespace Concretize.Code.Grammar

open Rule

/-! ## Functions -/

/-- The parameter that stands for the value a method is called on. -/
def receiver (g : Grammar) : Rule Code := do
  let reference ← maybe (Look.op "&") (op "&" ++ maybe Look.lifetime lifetime)
  let front ← optionalWord "mut" ++ word "self"
  if reference.isEmpty && (← ahead (Look.op ":")) then
    return front ++ (← op ":") ++ (← g.typeCode)
  return reference ++ front

/-- A parameter of a function: a pattern and a type, or a type alone that begins with a generic
name. -/
def typedParameter (g : Grammar) : Rule Code := do
  let rest ← get
  if Look.name rest && Look.second (Look.op "<") rest then g.typeCode
  else g.pattern ++ op ":" ++
    do if ← ahead (Look.op "...") then op "..." else g.typeCode

/-- The parameters of a function, at most so many. Only the first may be a receiver, and nothing
follows a variable number of arguments. -/
def functionInputsUpTo (g : Grammar) (first : Bool) : Nat → Rule Code
  | 0 => return []
  | n + 1 => do
    if ← ahead Look.nothing then return []
    let front ← g.attributesCode
    let rest ← get
    let (input, closing) ←
      if Look.op "..." rest then do pure (← op "...", true)
      else match g.receiver.run rest with
        | some (code, after) => do
          check first
          set after
          pure (code, false)
        | none => do
          let code ← g.typedParameter
          pure (code, Look.op "..." (code.drop (code.length - 3)))
    if ← ahead Look.nothing then return front ++ input
    let comma ← op ","
    if closing then return front ++ input ++ comma
    return front ++ input ++ comma ++ (← functionInputsUpTo g false n)

/-- What stands before `fn`. -/
def functionMarks (safe : Bool) : Rule Code :=
  optionalWord "const" ++ optionalWord "async" ++
    (if safe then maybe (Look.oneOf ["safe", "unsafe"]) token else optionalWord "unsafe") ++
    interface

/-- A function comes next. -/
def isFunction (safe : Bool) : Look := fun code =>
  match (functionMarks safe).run code with
  | some (_, rest) => Look.word "fn" rest
  | none => false

/-- A function without its body. -/
def signature (g : Grammar) (safe : Bool) : Rule Code :=
  functionMarks safe ++ word "fn" ++ nameCode ++ g.generics ++
    grouped .round (do functionInputsUpTo g true ((← get).length + 1)) ++
    (do return piecesCode (← g.result true)) ++ g.conditions

/-- A function, whose body may be missing. -/
def function (g : Grammar) (safe : Bool) : Rule Code :=
  g.signature safe ++ do if ← ahead (Look.op ";") then op ";" else g.block

/-! ## Types, constants and imports -/

/-- Another name for a type. Its conditions stand before the definition or after it, as far as both
places are admitted. -/
def typeAlias (g : Grammar) (early late : Bool) : Rule Code := do
  let ends : Look := fun code => Look.word "where" code || Look.oneOp ["=", ";"] code
  let front ← word "type" ++ nameCode ++ g.generics ++
    maybe (Look.op ":") (op ":" ++ separated ends (op "+") g.boundCode)
  let conditional ← ahead (Look.word "where")
  let before ← if early then g.conditions else pure []
  let definition ← maybe (Look.op "=") (op "=" ++ g.typeCode)
  let after ← if late && !(early && conditional) then g.conditions else pure []
  return front ++ before ++ definition ++ after ++ (← op ";")

/-- A value after an equals sign, which may be missing. -/
def initial (g : Grammar) : Rule Code := maybe (Look.op "=") (op "=" ++ g.expression true)

/-- A constant. -/
def constantItem (g : Grammar) : Rule Code :=
  word "const" ++ (do if ← ahead (Look.word "_") then wordCode else nameCode) ++ g.generics ++
    op ":" ++ g.typeCode ++ g.initial ++ g.conditions ++ op ";"

/-- A static variable, whose type may be missing if it has a value. -/
def staticItem (g : Grammar) : Rule Code :=
  word "static" ++ optionalWord "mut" ++ nameCode ++
    (do if ← ahead (Look.op "=") then return [] else op ":" ++ g.typeCode) ++ g.initial ++ op ";"

/-- What an import is called here. -/
def renamed : Rule Code :=
  maybe (Look.word "as")
    (word "as" ++ do if ← ahead (Look.word "_") then wordCode else nameCode)

/-- A tree of imports, at most so deep. With `rooted`, branches may begin with `::`. -/
def importTreeUpTo (rooted : Bool) : Nat → Rule Code
  | 0 => failure
  | n + 1 => do
    let rest ← get
    if Look.op "*" rest then op "*"
    else if Look.group .curly rest then
      grouped .curly (commas do
        let leading ← if rooted then optionalOp "::" else pure []
        return leading ++ (← importTreeUpTo (rooted && leading.isEmpty) n))
    else
      expect fun code => Look.name code || Look.oneOf ["self", "super", "crate", "try"] code
      let name ← wordCode
      if ← ahead (Look.op "::") then return name ++ (← op "::") ++ (← importTreeUpTo false n)
      return name ++ (← renamed)

/-- An import. -/
def importItem : Rule Code := do
  let front ← word "use" ++ optionalOp "::"
  let rest ← get
  return front ++ (← importTreeUpTo (front.length = 1) (size rest + 1)) ++ (← op ";")

/-- The import of a whole library. -/
def libraryItem : Rule Code :=
  word "extern" ++ word "crate" ++
    (do if ← ahead (Look.word "self") then wordCode else nameCode) ++ renamed ++ op ";"

/-! ## Modules, traits and implementations -/

/-- The call of a code template in place of an item. With `naming`, a name may follow the mark. -/
def templateItem (naming : Bool) : Rule Code := do
  let front ← (do return (← modPath).code) ++ op "!" ++
    (do if naming && (← ahead (Look.word "try")) then wordCode
        else if naming && (← ahead Look.name) then nameCode else return [])
  let call ← anyGroup
  if Look.group .curly call then return front ++ call
  return front ++ call ++ (← op ";")

/-- The path of a code template comes next. -/
def isTemplate : Look := fun code =>
  Look.name code || Look.oneOf ["self", "super", "crate"] code || Look.op "::" code

/-- A member of an implementation, a trait or a foreign block. -/
def membersOf (g : Grammar) (one : Rule Code) : Rule Code :=
  grouped .curly (g.innerAttributes ++ repeatWhile (fun code => !Look.nothing code) one)

/-- A member of an implementation or of a trait. -/
def associatedItem (g : Grammar) : Rule Code := do
  let front ← g.attributesCode
  let shown ← visibilityCode
  let chosen ← maybe
    (fun code => Look.word "default" code && !Look.second (Look.op "!") code) token
  let rest ← get
  let hidden := shown.isEmpty && chosen.isEmpty
  let front := front ++ shown ++ chosen
  if isFunction false rest then return front ++ (← g.function false)
  if Look.word "const" rest then return front ++ (← g.constantItem)
  if Look.word "type" rest then return front ++ (← g.typeAlias false true)
  check (isTemplate rest && hidden)
  return front ++ (← templateItem false)

/-- A member of a foreign block. -/
def foreignItem (g : Grammar) : Rule Code := do
  let front ← g.attributesCode
  let shown ← visibilityCode
  let rest ← get
  let hidden := shown.isEmpty
  let front := front ++ shown
  if isFunction true rest then return front ++ (← g.function true)
  if Look.word "static" rest || (Look.oneOf ["safe", "unsafe"] rest &&
      Look.second (Look.word "static") rest) then
    let safety ← maybe (Look.oneOf ["safe", "unsafe"]) token
    return front ++ safety ++ (← word "static") ++ (← optionalWord "mut") ++ (← nameCode) ++
      (← op ":") ++ (← g.typeCode) ++ (← g.initial) ++ (← op ";")
  if Look.word "type" rest then return front ++ (← g.typeAlias true true)
  check (isTemplate rest && hidden)
  return front ++ (← templateItem false)

/-- A trait, or another name for a sum of traits. -/
def traitItem (g : Grammar) : Rule Code := do
  let front ← optionalWord "unsafe" ++ optionalWord "auto" ++ word "trait" ++ nameCode ++ g.generics
  if Look.word "trait" front && (← ahead (Look.op "=")) then
    return front ++ (← op "=") ++
      (← separated (fun code => Look.word "where" code || Look.op ";" code) (op "+") g.boundCode) ++
      (← g.conditions) ++ (← op ";")
  let ends : Look := fun code => Look.word "where" code || Look.group .curly code
  return front ++ (← afterColon (separated ends (op "+") g.boundCode)) ++ (← g.conditions) ++
    (← g.membersOf g.associatedItem)

/-- Generic parameters of an implementation come next, and not a type in angle brackets. -/
def isImplementationGenerics : Look := fun code =>
  Look.op "<" code && (Look.second (Look.oneOp [">", "#"]) code ||
    ((Look.second Look.lifetime code || Look.second Look.name code) &&
      (Look.third (Look.oneOp [">", ",", "="]) code || Look.third Look.colon code)) ||
    Look.second (Look.word "const") code)

/-- An implementation, of a trait or of a type's own members. -/
def implementation (g : Grammar) : Rule Code := do
  let front ← optionalWord "default" ++ optionalWord "unsafe" ++ word "impl" ++
    maybe isImplementationGenerics g.generics ++
    maybe (fun code => Look.word "const" code ||
        (Look.op "?" code && Look.second (Look.word "const") code))
      (optionalOp "?" ++ word "const")
  let negation ← maybe (fun code => Look.op "!" code && !Look.second (Look.group .curly) code)
    (op "!")
  let type ← g.typeCode
  let target ← maybe (Look.word "for") (word "for" ++ g.typeCode)
  return front ++ negation ++ type ++ target ++ (← g.conditions) ++
    (← g.membersOf g.associatedItem)

/-- A module, perhaps in a file of its own. -/
def moduleItem (g : Grammar) : Rule Code :=
  optionalWord "unsafe" ++ word "mod" ++
    (do if ← ahead (Look.word "try") then wordCode else nameCode) ++
    do if ← ahead (Look.op ";") then op ";" else g.membersOf g.item

/-- A block of foreign functions. -/
def foreignBlock (g : Grammar) : Rule Code :=
  optionalWord "unsafe" ++ (do expect (Look.word "extern"); interface) ++
    g.membersOf g.foreignItem

/-- The definition of a code template that is itself an item. -/
def templateDefinition : Rule Code :=
  token ++ nameCode ++ maybe (Look.group .round) anyGroup ++
    do expect (Look.group .curly); anyGroup

/-! ## Items -/

/-- An item after its attributes and visibility; `hidden` if nothing is said about visibility. -/
def itemRest (g : Grammar) (hidden : Bool) : Rule Code := do
  let rest ← get
  if isFunction false rest then g.function false
  else if Look.word "extern" rest then
    if Look.second (Look.word "crate") rest then libraryItem else g.foreignBlock
  else if Look.word "use" rest then importItem
  else if Look.word "static" rest then g.staticItem
  else if Look.word "const" rest then g.constantItem
  else if Look.word "unsafe" rest then
    let kept := Look.skip rest
    if Look.oneOf ["trait", "auto"] kept then g.traitItem
    else if Look.word "impl" kept then g.implementation
    else if Look.word "extern" kept then g.foreignBlock
    else g.moduleItem
  else if Look.word "mod" rest then g.moduleItem
  else if Look.word "type" rest then g.typeAlias true false
  else if Look.word "struct" rest then g.structItem
  else if Look.word "enum" rest then do return (← g.enumRest [] .inherited).code
  else if Look.word "union" rest && Look.second Look.name rest then g.unionItem
  else if Look.word "trait" rest ||
      (Look.word "auto" rest && Look.second (Look.word "trait") rest) then g.traitItem
  else if Look.word "impl" rest ||
      (Look.word "default" rest && !Look.second (Look.op "!") rest) then g.implementation
  else if Look.word "macro" rest then templateDefinition
  else
    check (hidden && isTemplate rest)
    templateItem true

/-- An item. -/
def anyItem (g : Grammar) : Rule Code := do
  let front ← g.attributesCode
  let visibility ← visibilityCode
  return front ++ visibility ++ (← g.itemRest visibility.isEmpty)

/-! ## Statements -/

/-- An item comes next as a statement, and not an expression. -/
def isItemStatement : Look := fun code =>
  let next := Look.skip code
  let afterNext := Look.skip next
  Look.oneOf ["pub", "extern", "use", "fn", "mod", "type", "struct", "enum", "trait", "impl",
      "macro"] code ||
    (Look.word "crate" code && !Look.op "::" next) ||
    (Look.word "static" code && (Look.word "mut" next || Look.name next)) ||
    (Look.word "const" code && !(Look.group .curly next || Look.word "static" next ||
      Look.word "move" next || Look.op "|" next ||
      (Look.word "async" next && !Look.oneOf ["unsafe", "extern", "fn"] afterNext))) ||
    (Look.word "unsafe" code && !Look.group .curly next) ||
    (Look.word "async" code && Look.oneOf ["unsafe", "extern", "fn"] next) ||
    (Look.word "union" code && Look.name next) ||
    (Look.word "auto" code && Look.word "trait" next) ||
    (Look.word "default" code && Look.oneOf ["unsafe", "impl"] next)

/-- How the call of a code template begins a statement. -/
inductive CallStatement where
  /-- It defines something. -/
  | item
  /-- It is a statement of its own. -/
  | whole
  /-- It is part of an expression, or there is none. -/
  | none
deriving DecidableEq

/-- How the code ahead begins as the call of a code template. -/
def callStatement (code : Code) : CallStatement :=
  match modPath.run code with
  | some (_, rest) =>
    let next := Look.skip rest
    let afterNext := Look.skip next
    if !Look.op "!" rest then .none
    else if Look.name next || Look.word "try" next then .item
    else if Look.group .curly next && !(Look.op "." afterNext && !Look.op ".." afterNext) &&
        !Look.op "?" afterNext then .whole
    else .none
  | _ => .none

/-- A binding of a pattern, perhaps with a block for the case that it does not match. -/
def bindingStatement (g : Grammar) : Rule Code := do
  let front ← word "let" ++ g.pattern ++ maybe (Look.op ":") (op ":" ++ g.typeCode)
  if !(← ahead (Look.op "=")) then return front ++ (← op ";")
  let value ← op "=" ++ g.expression true
  let closed := Look.group .curly (value.drop (value.length - 1))
  let otherwise ← if closed then pure [] else maybe (Look.word "else") (word "else" ++ g.block)
  return front ++ value ++ otherwise ++ (← op ";")

/-- A statement; whether another one may follow it at once is told with it. -/
def statement (g : Grammar) : Rule (Code × Bool) := do
  let front ← g.attributesCode
  let rest ← get
  let call := callStatement rest
  if call = .whole then
    let code ← (do return (← modPath).code) ++ op "!" ++ anyGroup ++ optionalOp ";"
    return (front ++ code, true)
  if Look.word "let" rest then return (front ++ (← g.bindingStatement), true)
  if isItemStatement rest || call = .item then
    return (front ++ (← g.item), true)
  let term ← g.body
  let semicolon ← optionalOp ";"
  let ended := !semicolon.isEmpty || term.shape = .block || term.shape = .curlyCall
  return (front ++ term.code ++ semicolon, ended)

/-- The statements of a block, at most so many. -/
def statementsUpTo (g : Grammar) : Nat → Rule Code
  | 0 => return []
  | n + 1 => do
    let semicolons ← repeatWhile (Look.op ";") (op ";")
    if ← ahead Look.nothing then return semicolons
    let (code, ended) ← g.statement
    check (ended || (← ahead Look.nothing))
    return semicolons ++ code ++ (← statementsUpTo g n)

/-- The statements of a block. -/
def anyStatements (g : Grammar) : Rule Code := do
  statementsUpTo g ((← get).length + 1)

end Concretize.Code.Grammar
