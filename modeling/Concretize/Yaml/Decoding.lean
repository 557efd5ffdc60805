import Concretize.Exchange
import Concretize.Yaml.Node

/-!
# Settings as YAML nodes

Decodes settings from a document. Whoever wants a string takes any scalar as one; a number or a
Boolean has to be plain. A choice is a scalar with its name, or a tag with its name on what it
carries. A place without content is a record without fields.
-/
namespace Concretize.Yaml

/-- Decodes a node of a document, or refuses it. -/
abbrev Decoder (α : Type) := Document → Node → Option α

/-- The node that a reference leads to, and every other node itself. An anchor cannot stand on a
reference, so one step is enough. -/
def follow (d : Document) : Node → Option Node
  | .reference number => d.resolve number
  | n => some n

/-- A string. -/
def decodeString : Decoder String := fun d n => do
  match ← follow d n with
  | .scalar text _ _ => some text
  | _ => none

/-- A scalar that is plain, or in literal style with the given tag. -/
def plainText? (tag : String) : Node → Option String
  | .scalar text .plain _ => some text
  | .scalar text .literal t => if t = some ("tag:yaml.org,2002:" ++ tag) then some text else none
  | _ => none

/-- A Boolean. -/
def decodeBool : Decoder Bool := fun d n => do
  let text ← plainText? "bool" (← follow d n)
  if ["true", "True", "TRUE"].contains text then some true
  else if ["false", "False", "FALSE"].contains text then some false
  else none

/-- The natural number that a scalar spells: in base sixteen, eight or two after `0x`, `0o` or `0b`,
or in base ten without leading zeros; with a plus sign or without. -/
def readNumber? (text : String) : Option Nat :=
  let digits :=
    match text.toList with
    | '+' :: rest => rest
    | cs => cs
  match digits with
  | '0' :: 'x' :: rest => Text.readNat? 16 rest
  | '0' :: 'o' :: rest => Text.readNat? 8 rest
  | '0' :: 'b' :: rest => Text.readNat? 2 rest
  | '0' :: _ :: _ => none
  | _ => Text.readNat? 10 digits

/-- A number that fits a machine word. -/
def wordOf? (text : String) : Option Nat := (readNumber? text).filter (· ≤ wordLimit)

/-- A natural number. -/
def decodeNat : Decoder Nat := fun d n => do
  wordOf? (← plainText? "int" (← follow d n))

/-- The tag of a node. -/
def Node.tag : Node → Option String
  | .scalar _ _ t => t
  | .sequence _ t => t
  | .mapping _ t => t
  | .reference _ => none

/-- The name that a local tag stands for. -/
def localName? (tag : String) : Option String :=
  match tag.toList with
  | ['!'] => some "!"
  | '!' :: name => some (String.ofList name)
  | _ => none

/-- A node that carries nothing: plain, and empty or one of the words for null. -/
def isNull : Node → Bool
  | .scalar text .plain _ => ["", "~", "null", "Null", "NULL"].contains text
  | _ => false

/-- The name of a choice, and the node that carries its tag, if it has one. -/
def choice? (d : Document) (n : Node) : Option (String × Option Node) := do
  let n ← follow d n
  match n.tag.bind localName? with
  | some name => some (name, some n)
  | none =>
    match n with
    | .scalar text _ _ => some (text, none)
    | _ => none

/-- A choice that carries nothing. -/
def decodeName {α : Type} (ofLabel? : String → Option α) : Decoder α := fun d n => do
  let (name, payload) ← choice? d n
  let a ← ofLabel? name
  if (payload.map isNull).getD true then some a else none

/-- A number of workers. -/
def decodeWorkers : Decoder Workers := fun d n => do
  match ← choice? d n with
  | ("count", some (.scalar text .plain _)) => .count <$> wordOf? text
  | ("auto", payload) => if (payload.map isNull).getD true then some .auto else none
  | ("none", payload) => if (payload.map isNull).getD true then some .sequential else none
  | _ => none

/-- The fields of a record, with their names. -/
def fields? (d : Document) (n : Node) : Option (List (String × Node)) := do
  match ← follow d n with
  | .mapping pairs _ => pairs.mapM fun (k, v) => do return (← decodeString d k, v)
  | .scalar "" .plain _ => some []
  | _ => none

/-- A field: its value, or a default if it is missing. A field must not be given twice. -/
def field {α : Type} (decode : Decoder α) (d : Document) (fields : List (String × Node))
    (name : String) (default : α) : Option α :=
  match fields.filter (·.1 = name) with
  | [] => some default
  | [(_, v)] => decode d v
  | _ => none

/-- The layout of the output. -/
def decodeLayout : Decoder Layout := fun d n => do
  let fs ← fields? d n
  let layout : Layout := {}
  return {
    keepRules := ← field decodeString d fs "keep_rules_directory" layout.keepRules
    indentWidth := ← field decodeNat d fs "indent_width" layout.indentWidth
    fileHeader := ← field decodeBool d fs "file_header" layout.fileHeader }

/-- Settings. -/
def decodeSettings (d : Document) : Option Settings := do
  let fs ← (d.root.map (fields? d)).getD (some [])
  let s : Settings := {}
  return {
    trigger := ← field decodeString d fs "trigger_annotation" s.trigger
    nested := ← field (decodeName NestedPolicy.ofLabel?) d fs "nested_placeholders" s.nested
    collisions := ← field (decodeName CollisionPolicy.ofLabel?) d fs "name_collisions" s.collisions
    workers := ← field decodeWorkers d fs "worker_count" s.workers
    layout := ← field decodeLayout d fs "output" s.layout }

end Concretize.Yaml
