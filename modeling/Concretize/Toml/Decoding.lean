import Concretize.Exchange
import Concretize.Toml.Value

/-!
# Settings as TOML values

Decodes settings from the members of a document. A choice is a string, or a table with the name as
its only key; a record may also be an array of its fields in order, of which trailing ones may be
missing and surplus ones are ignored.
-/
namespace Concretize.Toml

/-- Decodes a value, or refuses it. -/
abbrev Decoder (α : Type) := Value → Option α

/-- A string. -/
def decodeString : Decoder String
  | .text s => some s
  | _ => none

/-- A Boolean. -/
def decodeBool : Decoder Bool
  | .boolean b => some b
  | _ => none

/-- An integer that is not negative. -/
def decodeNat : Decoder Nat
  | .integer n => if 0 ≤ n then some n.toNat else none
  | _ => none

/-- The name of a choice, and what it carries, if anything. -/
def choice? : Value → Option (String × Option Value)
  | .text name => some (name, none)
  | .table _ [(name, payload)] => some (name, some payload)
  | _ => none

/-- Whether a choice that carries nothing may be written with this payload. -/
def isEmpty : Option Value → Bool
  | none => true
  | some (.array []) => true
  | some (.table _ []) => true
  | some _ => false

/-- A choice that carries nothing. -/
def decodeName {α : Type} (ofLabel? : String → Option α) : Decoder α := fun v => do
  let (name, payload) ← choice? v
  let a ← ofLabel? name
  if isEmpty payload then some a else none

/-- A number of workers. -/
def decodeWorkers : Decoder Workers := fun v => do
  match ← choice? v with
  | ("count", some payload) => .count <$> decodeNat payload
  | ("auto", payload) => if isEmpty payload then some .auto else none
  | ("none", payload) => if isEmpty payload then some .sequential else none
  | _ => none

/-- A field: its value, or a default if it is missing. -/
def field {α : Type} (decode : Decoder α) (default : α) : Option Value → Option α
  | none => some default
  | some v => decode v

/-- The layout of the output, given what stands at each field. -/
def decodeLayoutFields (keepRules indentWidth fileHeader : Option Value) : Option Layout := do
  let layout : Layout := {}
  return {
    keepRules := ← field decodeString layout.keepRules keepRules
    indentWidth := ← field decodeNat layout.indentWidth indentWidth
    fileHeader := ← field decodeBool layout.fileHeader fileHeader }

/-- The layout of the output. -/
def decodeLayout : Decoder Layout
  | .table _ ms =>
    decodeLayoutFields (ms.lookup "keep_rules_directory") (ms.lookup "indent_width")
      (ms.lookup "file_header")
  | .array items => decodeLayoutFields items[0]? items[1]? items[2]?
  | _ => none

/-- Settings. -/
def decodeSettings (ms : Members) : Option Settings := do
  let s : Settings := {}
  return {
    trigger := ← field decodeString s.trigger (ms.lookup "trigger_annotation")
    nested := ← field (decodeName NestedPolicy.ofLabel?) s.nested (ms.lookup "nested_placeholders")
    collisions :=
      ← field (decodeName CollisionPolicy.ofLabel?) s.collisions (ms.lookup "name_collisions")
    workers := ← field decodeWorkers s.workers (ms.lookup "worker_count")
    layout := ← field decodeLayout s.layout (ms.lookup "output") }

end Concretize.Toml
