import Concretize.Decimal.Literal
import Concretize.Json.Reading

/-!
# Decoding readings

Decoders turn a `Reading` into a domain value, or find its first problem from left to right. A
record is an object, or an array of its fields in order; a choice is a name, or an object with the
name as its only key. Members with unknown names are skipped. Containers may be nested to a depth of
127; what is skipped may be nested to any depth.
-/
namespace Concretize.Json

/-- The depth to which containers may be nested. -/
def depthLimit : Nat := 127

/-- Decodes a reading in which containers may still be nested to some depth. -/
abbrev Decoder (α : Type) := Nat → Reading → Except Category α

/-- The first problem of a value that is only skipped. -/
def skipFault : Reading → Option Category
  | .missing => some .ended
  | .broken flaw => some flaw.skipping
  | .brokenText flaw => some flaw.skipping
  | .array items ending => (itemsFault items).or (endingFault ending)
  | .object members ending => (membersFault members).or (endingFault ending)
  | _ => none
where
  /-- The first problem of skipped items. -/
  itemsFault : List Reading → Option Category
    | [] => none
    | item :: items => (skipFault item).or (itemsFault items)
  /-- The first problem of skipped members. -/
  membersFault : List (Except Category String × Reading) → Option Category
    | [] => none
    | (_, value) :: members => (skipFault value).or (membersFault members)
  /-- The problem of the end of a skipped container. -/
  endingFault : Ending → Option Category
    | .closed => none
    | .broken c => some c
    | .afterComma c => some c
    | .strayKey _ => some .malformed
    | .brokenKey flaw => some flaw.skipping

/-- The problem of a value that stands where one of another form is wanted. -/
def mismatch : Reading → Category
  | .missing => .ended
  | .broken flaw => flaw.decoding
  | .brokenText flaw => flaw.decoding
  | .text (.error c) => c
  | .number lexeme => if (Decimal.Literal.read lexeme).isHuge then .malformed else .mismatched
  | _ => .mismatched

/-! ## Leaves -/

/-- A text. -/
def decodeString : Decoder String
  | _, .text decoded => decoded
  | _, r => .error (mismatch r)

/-- A truth value. -/
def decodeBool : Decoder Bool
  | _, .bool b => .ok b
  | _, r => .error (mismatch r)

/-- A value that may be null. -/
def decodeNullable {α : Type} (decode : Decoder α) : Decoder (Option α)
  | _, .null => .ok none
  | depth, r => some <$> decode depth r

/-! ## Lists -/

/-- The problem of an array that ends where another item is wanted, if there is one. -/
def Ending.fault? : Ending → Option Category
  | .closed => none
  | .broken c => some c
  | .afterComma c => some c
  | .strayKey _ => some .malformed
  | .brokenKey flaw => some flaw.decoding

/-- Fails if the ending has a problem. -/
def Ending.require (ending : Ending) : Except Category Unit :=
  match ending.fault? with
  | some c => .error c
  | none => .ok ()

/-- A list of values of one form. -/
def decodeList {α : Type} (decode : Decoder α) : Decoder (List α)
  | depth, .array items ending =>
    match depth with
    | 0 => .error .malformed
    | depth + 1 => do
      let values ← items.mapM (decode depth)
      ending.require
      return values
  | _, r => .error (mismatch r)

/-! ## Records -/

/-- The fields of a record in order, each with its decoder and the value it has when left out. -/
inductive Fields : List Type → Type 1
  | nil : Fields []
  | cons {α : Type} {αs : List Type} (name : String) (decode : Decoder α) (default : Option α)
      (rest : Fields αs) : Fields (α :: αs)

/-- A field that must be there. -/
def Fields.required {α : Type} {αs : List Type} (name : String) (decode : Decoder α)
    (rest : Fields αs) : Fields (α :: αs) :=
  .cons name decode none rest

/-- A field that may be left out. -/
def Fields.optional {α : Type} {αs : List Type} (name : String) (decode : Decoder α) (default : α)
    (rest : Fields αs) : Fields (α :: αs) :=
  .cons name decode (some default) rest

/-- The values of all fields. -/
abbrev Values : List Type → Type
  | [] => Unit
  | α :: αs => α × Values αs

/-- The values of the fields met so far. -/
abbrev Draft : List Type → Type
  | [] => Unit
  | α :: αs => Option α × Draft αs

/-- The draft in which no field was met. -/
def Fields.blank : {αs : List Type} → Fields αs → Draft αs
  | _, .nil => ()
  | _, .cons _ _ _ rest => (none, rest.blank)

/-- Decodes a member into the draft; `none` if no field has the key. A field must not occur
twice. -/
def Fields.fill? (key : String) (depth : Nat) (value : Reading) :
    {αs : List Type} → Fields αs → Draft αs → Option (Except Category (Draft αs))
  | _, .nil, _ => none
  | _, .cons name decode _ rest, (slot, slots) =>
    if name = key then
      match slot with
      | some _ => some (.error .mismatched)
      | none => some ((decode depth value).map fun a => (some a, slots))
    else (rest.fill? key depth value slots).map fun r => r.map fun slots => (slot, slots)

/-- The values of a draft, with defaults for the fields that were left out. -/
def Fields.complete? : {αs : List Type} → Fields αs → Draft αs → Option (Values αs)
  | _, .nil, _ => some ()
  | _, .cons _ _ default rest, (slot, slots) => do
    let value ← slot.or default
    let values ← rest.complete? slots
    return (value, values)

/-- Decodes members into a draft, and skips those that belong to no field. -/
def Fields.fillMembers {αs : List Type} (fields : Fields αs) (depth : Nat) :
    List (Except Category String × Reading) → Draft αs → Except Category (Draft αs)
  | [], draft => .ok draft
  | (key, value) :: members, draft => do
    let key ← key
    match fields.fill? key depth value draft with
    | some filled => do
      let draft ← filled
      fields.fillMembers depth members draft
    | none =>
      match skipFault value with
      | some c => .error c
      | none => fields.fillMembers depth members draft

/-- Decodes items as the fields in order. Items beyond the last field are malformed. -/
def Fields.ofItems (depth : Nat) (ending : Ending) :
    {αs : List Type} → Fields αs → List Reading → Except Category (Values αs)
  | _, .nil, [] =>
    match ending with
    | .closed => .ok ()
    | .broken c => .error c
    | _ => .error .malformed
  | _, .nil, _ :: _ => .error .malformed
  | _, .cons _ decode _ rest, item :: items => do
    let value ← decode depth item
    let values ← rest.ofItems depth ending items
    return (value, values)
  | _, .cons _ _ default rest, [] => do
    ending.require
    match default with
    | none => .error .mismatched
    | some value => do
      let values ← rest.ofItems depth ending []
      return (value, values)

/-- A record, as an object or as an array of its fields. -/
def decodeRecord {αs : List Type} {α : Type} (fields : Fields αs) (build : Values αs → α) :
    Decoder α
  | depth, .object members ending =>
    match depth with
    | 0 => .error .malformed
    | depth + 1 => do
      let draft ← fields.fillMembers depth members fields.blank
      ending.require
      match fields.complete? draft with
      | some values => .ok (build values)
      | none => .error .mismatched
  | depth, .array items ending =>
    match depth with
    | 0 => .error .malformed
    | depth + 1 => build <$> fields.ofItems depth ending items
  | _, r => .error (mismatch r)

/-! ## Choices -/

/-- What belongs to a name of a choice: nothing, or a value. -/
inductive Alternative (α : Type) where
  | plain (value : α)
  | carrying (decode : Decoder α)

/-- Null, as an object gives it to a name that carries nothing. -/
def requireNull {α : Type} (value : α) : Reading → Except Category α
  | .null => .ok value
  | r => .error (mismatch r)

/-- A choice among names. -/
def decodeChoice {α : Type} (alternative? : String → Option (Alternative α)) : Decoder α
  | _, .text decoded => do
    match alternative? (← decoded) with
    | some (.plain value) => .ok value
    | _ => .error .mismatched
  | depth, .object members ending =>
    match depth, members with
    | 0, _ => .error .malformed
    | _, [] =>
      match ending with
      | .broken c => .error c
      | .strayKey c => .error c
      | .brokenKey flaw => .error flaw.decoding
      | _ => .error .malformed
    | depth + 1, (key, content) :: others => do
      let value ←
        match alternative? (← key) with
        | some (.plain value) => requireNull value content
        | some (.carrying decode) => decode depth content
        | none => .error .mismatched
      match others, ending with
      | [], .closed => .ok value
      | [], .broken c => .error c
      | _, _ => .error .malformed
  | _, .missing => .error .ended
  | _, .brokenText flaw => .error flaw.decoding
  | _, _ => .error .malformed

/-! ## Whole texts -/

/-- Decodes a text that holds one value and nothing else. -/
def decodeAll {α : Type} (decode : Decoder α) (text : String) : Except Category α := do
  let (reading, rest) := read text
  let value ← decode depthLimit reading
  if rest.all isBlank then .ok value else .error .malformed

end Concretize.Json
