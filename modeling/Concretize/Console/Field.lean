import Concretize.Decimal.Double
import Concretize.Text.Quoted

/-!
# Fields

A record is a list of fields. The console keeps the fields it shows, each under its own name and
only if the value is of the right form: `generated` is a name in one record and a count in another,
and both are kept apart.
-/
namespace Concretize.Console

/-- The name of a field. -/
inductive Field where
  | event
  | message
  | declaration
  | path
  | generated
  | bindings
  | error
  | threads
  | declarationCount
  | hierarchies
  | skipped
  | failed
  | files
  /-- A field the console does not show. -/
  | other
deriving DecidableEq, Repr

/-- The value of a field. -/
inductive Value where
  | text (s : String)
  | natural (n : Nat)
deriving DecidableEq, Repr

namespace Value

/-- An integer counts from zero up. -/
def ofInt (i : Int) : Value := .natural i.toNat

/-- A text without the quotes at its ends. -/
def unquoted (s : String) : Value :=
  let isQuote := fun c : Char => c = '"'
  .text (String.ofList ((s.toList.dropWhile isQuote).reverse.dropWhile isQuote).reverse)

/-- A text that is recorded as a quoted text. -/
def ofQuoted (s : String) : Value := unquoted (Text.quoted s)

/-- A truth value is recorded as a word. -/
def ofBool (b : Bool) : Value := .text (if b then "true" else "false")

/-- A double is recorded as its shortest text. -/
def ofDouble (l : Decimal.Literal) : Value := .text l.display

end Value

/-- The fields the console shows, as far as a record has them. -/
structure Slots where
  event : Option String := none
  message : Option String := none
  declaration : Option String := none
  path : Option String := none
  generatedName : Option String := none
  bindings : Option String := none
  error : Option String := none
  threads : Option Nat := none
  declarationCount : Option Nat := none
  generated : Option Nat := none
  hierarchies : Option Nat := none
  skipped : Option Nat := none
  failed : Option Nat := none
  files : Option Nat := none
deriving DecidableEq, Repr

namespace Slots

/-- Notes a field. A value of the wrong form is ignored. -/
def note (s : Slots) : Field → Value → Slots
  | .event, .text t => { s with event := some t }
  | .message, .text t => { s with message := some t }
  | .declaration, .text t => { s with declaration := some t }
  | .path, .text t => { s with path := some t }
  | .generated, .text t => { s with generatedName := some t }
  | .bindings, .text t => { s with bindings := some t }
  | .error, .text t => { s with error := some t }
  | .threads, .natural n => { s with threads := some n }
  | .declarationCount, .natural n => { s with declarationCount := some n }
  | .generated, .natural n => { s with generated := some n }
  | .hierarchies, .natural n => { s with hierarchies := some n }
  | .skipped, .natural n => { s with skipped := some n }
  | .failed, .natural n => { s with failed := some n }
  | .files, .natural n => { s with files := some n }
  | _, _ => s

/-- Notes fields in order. -/
def noteAll (s : Slots) (fields : List (Field × Value)) : Slots :=
  fields.foldl (fun s f => s.note f.1 f.2) s

end Slots

end Concretize.Console
