import Concretize.Yaml.Token

/-!
# YAML nodes

Reads the tokens of a text as one document: a tree of scalars, sequences and mappings. An alias
stays a reference to the number of its anchor, so a node may refer to itself.
-/
namespace Concretize.Yaml

/-- A node, with the tag it was given. -/
inductive Node where
  | scalar (text : String) (style : Style) (tag : Option String)
  | sequence (items : List Node) (tag : Option String)
  | mapping (pairs : List (Node × Node)) (tag : Option String)
  /-- The node of an anchor. -/
  | reference (number : Nat)
deriving Repr

/-- What a place in a text without content reads as. -/
def Node.empty : Node := .scalar "" .plain none

/-- A document. -/
structure Document where
  /-- The root; a text without any content has none. -/
  root : Option Node
  /-- For each number of an anchor, the latest node that was given it. -/
  places : List (Nat × Nat)
  nodes : List (Nat × Node)

/-- The node that a number of an anchor stands for. -/
def Document.resolve (d : Document) (number : Nat) : Option Node :=
  (d.places.lookup number).bind fun place => d.nodes.lookup place

/-! ## Reading tokens -/

/-- The state of reading tokens. -/
structure Parse where
  tokens : List Token
  /-- What handles of tags stand for. -/
  handles : List (String × String) := []
  /-- The numbers of anchors by name. -/
  names : List (String × Nat) := []
  /-- The node that a number was last given to, by its place among the anchored nodes. -/
  places : List (Nat × Nat) := []
  /-- The anchored nodes that are complete. -/
  nodes : List (Nat × Node) := []

/-- Reads tokens, or refuses them. -/
abbrev Parser (α : Type) := StateT Parse Option α

/-- The next token, which stays. -/
def peek : Parser Token := do return (← get).tokens.head?.getD .streamEnd

/-- Takes a token. -/
def advance : Parser Unit := modify fun p => { p with tokens := p.tokens.drop 1 }

/-- Takes a token if it is the given one. -/
def acceptToken (t : Token) : Parser Bool := do
  if (← peek) = t then
    advance
    return true
  else return false

/-- Gives a name to the node that starts here; answers its place. The number of a name is the count
of other names given before. -/
def startAnchor (name : String) : Parser Nat := do
  let p ← get
  let number := p.names.length
  let place := p.places.length
  set { p with
    names := (name, number) :: p.names.filter (·.1 ≠ name)
    places := (number, place) :: p.places }
  return place

/-- Completes an anchored node. -/
def completeAnchor (place : Option Nat) (n : Node) : Parser Node := do
  match place with
  | some place => modify fun p => { p with nodes := (place, n) :: p.nodes }
  | none => pure ()
  return n

/-- The tag that a handle and a suffix spell. -/
def resolveTag (handle suffix : String) : Parser String := do
  if handle = "" then return suffix
  match (← get).handles.lookup handle with
  | some expansion => return expansion ++ suffix
  | none => failure

/-- An anchor and a tag, in either order. -/
def properties : Parser (Option String × Option String) := do
  match ← peek with
  | .anchor name =>
    advance
    match ← peek with
    | .tag handle suffix =>
      advance
      return (some name, some (← resolveTag handle suffix))
    | _ => return (some name, none)
  | .tag handle suffix =>
    advance
    match ← peek with
    | .anchor name =>
      advance
      return (some name, some (← resolveTag handle suffix))
    | _ => return (none, some (← resolveTag handle suffix))
  | _ => return (none, none)

/-- Refuses a place without content, unless it has an anchor or a tag. -/
def requireContent (hasContent : Bool) (name tag : Option String) : Parser Unit :=
  if hasContent || name.isSome || tag.isSome then return () else failure

mutual

/-- A node. Of the bound, every token takes three at most. -/
def node (inBlock indentless : Bool) : Nat → Parser Node
  | 0 => failure
  | bound + 1 => do
    match ← peek with
    | .alias name =>
      advance
      match (← get).names.lookup name with
      | some number => return .reference number
      | none => failure
    | _ =>
      let (name, tag) ← properties
      let token ← peek
      match token with
      | .scalar text style =>
        let place ← name.mapM startAnchor
        advance
        completeAnchor place (.scalar text style (tag.filter (· ≠ "!")))
      | .flowSequenceStart =>
        let place ← name.mapM startAnchor
        advance
        completeAnchor place (.sequence (← flowItems true bound) tag)
      | .flowMappingStart =>
        let place ← name.mapM startAnchor
        advance
        completeAnchor place (.mapping (← flowPairs true bound) tag)
      | .blockSequenceStart =>
        requireContent inBlock name tag
        let place ← name.mapM startAnchor
        if inBlock then
          advance
          completeAnchor place (.sequence (← blockItems bound) tag)
        else completeAnchor place (.scalar "" .plain tag)
      | .blockMappingStart =>
        requireContent inBlock name tag
        let place ← name.mapM startAnchor
        if inBlock then
          advance
          completeAnchor place (.mapping (← blockPairs bound) tag)
        else completeAnchor place (.scalar "" .plain tag)
      | .blockEntry =>
        requireContent indentless name tag
        let place ← name.mapM startAnchor
        if indentless then completeAnchor place (.sequence (← indentlessItems bound) tag)
        else completeAnchor place (.scalar "" .plain tag)
      | _ =>
        requireContent false name tag
        let place ← name.mapM startAnchor
        completeAnchor place (.scalar "" .plain tag)

/-- The items of a block sequence and its end. -/
def blockItems : Nat → Parser (List Node)
  | 0 => failure
  | bound + 1 => do
    if ← acceptToken .blockEnd then return []
    if ← acceptToken .blockEntry then
      let t ← peek
      let item ←
        if t = .blockEntry || t = .blockEnd then pure Node.empty else node true false bound
      return item :: (← blockItems bound)
    else failure

/-- The items of a sequence that is not indented more than the key it belongs to. -/
def indentlessItems : Nat → Parser (List Node)
  | 0 => failure
  | bound + 1 => do
    if ← acceptToken .blockEntry then
      let t ← peek
      let item ←
        if t = .blockEntry || t = .key || t = .value || t = .blockEnd then pure Node.empty
        else node true false bound
      return item :: (← indentlessItems bound)
    else return []

/-- The pairs of a block mapping and its end. -/
def blockPairs : Nat → Parser (List (Node × Node))
  | 0 => failure
  | bound + 1 => do
    if ← acceptToken .blockEnd then return []
    if ← acceptToken .key then
      let k ← blockPart bound
      let v ← if ← acceptToken .value then blockPart bound else pure Node.empty
      return (k, v) :: (← blockPairs bound)
    else failure

/-- A key or a value of a block mapping. -/
def blockPart : Nat → Parser Node
  | 0 => failure
  | bound + 1 => do
    let t ← peek
    if t = .key || t = .value || t = .blockEnd then return Node.empty else node true true bound

/-- The items of a sequence in brackets and its end. -/
def flowItems (first : Bool) : Nat → Parser (List Node)
  | 0 => failure
  | bound + 1 => do
    if ← acceptToken .flowSequenceEnd then return []
    if !first then
      if !(← acceptToken .flowEntry) then failure
    if ← acceptToken .flowSequenceEnd then return []
    let item ←
      if ← acceptToken .key then do
        let pair ← flowPair bound
        pure (.mapping [pair] none)
      else node false false bound
    return item :: (← flowItems false bound)

/-- A single pair among the items of a sequence, after its key token. An empty key takes the token
that follows it. -/
def flowPair : Nat → Parser (Node × Node)
  | 0 => failure
  | bound + 1 => do
    let t ← peek
    let k ←
      if t = .value || t = .flowEntry || t = .flowSequenceEnd then do
        advance
        pure Node.empty
      else node false false bound
    if ← acceptToken .value then
      let t ← peek
      let v ←
        if t = .flowEntry || t = .flowSequenceEnd then pure Node.empty else node false false bound
      return (k, v)
    else return (k, Node.empty)

/-- The pairs of a mapping in braces and its end. -/
def flowPairs (first : Bool) : Nat → Parser (List (Node × Node))
  | 0 => failure
  | bound + 1 => do
    if ← acceptToken .flowMappingEnd then return []
    if !first then
      if !(← acceptToken .flowEntry) then failure
    if ← acceptToken .flowMappingEnd then return []
    let pair ←
      if ← acceptToken .key then do
        let k ← flowPart bound
        let v ← if ← acceptToken .value then flowPart bound else pure Node.empty
        pure (k, v)
      else do
        let k ← node false false bound
        pure (k, Node.empty)
    return pair :: (← flowPairs false bound)

/-- A key or a value of a mapping in braces. -/
def flowPart : Nat → Parser Node
  | 0 => failure
  | bound + 1 => do
    let t ← peek
    if t = .value || t = .flowEntry || t = .flowMappingEnd then return Node.empty
    else node false false bound

end

/-! ## Documents -/

/-- The directives before a document; answers whether there are any. The bound is on their
number. -/
def directives (versioned : Bool) : Nat → Parser Bool
  | 0 => failure
  | bound + 1 => do
    match ← peek with
    | .version major minor =>
      if versioned || major ≠ 1 || (minor ≠ 1 && minor ≠ 2) then failure
      advance
      let _ ← directives true bound
      return true
    | .tagHandle handle expansion =>
      let p ← get
      if (p.handles.lookup handle).isSome then failure
      set { p with handles := (handle, expansion) :: p.handles }
      advance
      let _ ← directives versioned bound
      return true
    | _ => return false

/-- What handles of tags stand for without directives. -/
def standardHandles : List (String × String) := [("!", "!"), ("!!", "tag:yaml.org,2002:")]

/-- The content of a document that starts with a marker. -/
def explicitContent (bound : Nat) : Parser Node := do
  match ← peek with
  | .documentStart => return Node.empty
  | .documentEnd => return Node.empty
  | .streamEnd => return Node.empty
  | .version .. => return Node.empty
  | .tagHandle .. => return Node.empty
  | _ => node true false bound

/-- Markers that end a document. The bound is on their number. -/
def documentEnds : Nat → Parser Unit
  | 0 => return ()
  | bound + 1 => do
    if ← acceptToken .documentEnd then documentEnds bound else return ()

/-- The only document of a text. -/
def document (bound : Nat) : Parser (Option Node) := do
  match ← peek with
  | .streamEnd => return none
  | _ =>
    let declared ← directives false bound
    modify fun p => { p with handles := p.handles ++ standardHandles }
    let root ←
      if ← acceptToken .documentStart then explicitContent bound
      else if declared then failure
      else node true false bound
    documentEnds bound
    if (← peek) = .streamEnd then return some root else failure

/-- Reads a text as one document; `none` if it is not YAML, or more than one document. -/
def readDocument (text : String) : Option Document := do
  let ts ← tokens text
  let (root, p) ← (document (3 * ts.length)).run { tokens := ts }
  return { root, places := p.places, nodes := p.nodes }

end Concretize.Yaml
