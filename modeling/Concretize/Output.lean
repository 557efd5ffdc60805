import Concretize.Emitter
import Concretize.KeepRules
import Concretize.Storage.Tree

/-!
# Output

An emitter that writes source files and keep rules into a storage tree. Every file it writes is
recorded with the source it was derived from, so that a build can tell what to redo; a second output
for a recorded path is refused.
-/
namespace Concretize

/-- Why an output could not be written. -/
inductive OutputError where
  | storage (path : Storage.Path) (fault : Storage.Fault)
  /-- The path was already written in this pass. -/
  | duplicate (path : Storage.Path)
deriving DecidableEq, Repr

namespace OutputError

/-- The text of an output error. -/
def message : OutputError → String
  | storage path fault => "I/O error on " ++ path.text ++ ": " ++ fault.message
  | duplicate path =>
    path.text ++ " was already written in this pass; refusing to overwrite it"

/-- The error as a pass reports it. -/
def toGenerationError : OutputError → GenerationError
  | storage path fault => .emit path.text fault
  | duplicate path => .emit path.text .alreadyWritten

end OutputError

/-- What a written file depends on. -/
structure OutputRecord where
  /-- The path below the output directory. -/
  path : Storage.Path
  /-- Whether a change of the source changes which files are written. -/
  aggregating : Bool
  source : Option String
deriving DecidableEq, Repr

/-- The files of a pass, and the storage they are written to. -/
structure Output where
  root : Storage.Path
  layout : Layout
  /-- One record per written file, ordered by path. -/
  records : List OutputRecord := []
  diagnostics : List Diagnostic := []
  storage : Storage.Tree

/-- Adds a record in path order. -/
def insertRecord (r : OutputRecord) : List OutputRecord → List OutputRecord
  | [] => [r]
  | s :: rest => if r.path.before s.path then r :: s :: rest else s :: insertRecord r rest

/-- Writes a file and makes its directory if need be. What was made before a fault stays. -/
def writeFile (t : Storage.Tree) (p : Storage.Path) (text : String) :
    Storage.Tree × Option OutputError :=
  let (t, refused) :=
    match p.parent? with
    | none => (t, none)
    | some above =>
      let (t, fault) := t.makeDirectories above
      (t, fault.map (.storage above ·))
  match refused with
  | some e => (t, some e)
  | none =>
    let (t, fault) := t.tryWrite p text
    (t, fault.map (.storage p ·))

namespace Output

/-- Whether an output of this pass has the path. -/
def has (o : Output) (p : Storage.Path) : Bool := o.records.any (·.path.same p)

/-- Writes and records one output, unless its path is taken or the write fails. -/
def offer (o : Output) (relative : Storage.Path) (text : String) (origin : Option String)
    (aggregating : Bool) : Reply × Output :=
  if o.has relative then
    ({ refusal := some (OutputError.duplicate relative).toGenerationError
       events := [.outputOverwritten relative.text] }, o)
  else
    match writeFile o.storage (o.root.join relative) text with
    | (storage, some e) => ({ refusal := some e.toGenerationError }, { o with storage })
    | (storage, none) =>
      ({ events := [.outputWritten relative.text text.utf8ByteSize aggregating] },
        { o with
          storage
          records := insertRecord { path := relative, aggregating, source := origin } o.records })

/-- The path of the keep rules of a declaration. -/
def keepRulesPath (o : Output) (source : QualifiedName) : Storage.Path :=
  (⟨o.layout.keepRules⟩ : Storage.Path).push (keepRulesFileName source)

end Output

instance : Emitter Output where
  emit h origin o := o.offer h.path (h.render o.layout) origin true
  emitRetention source directives origin o :=
    o.offer (o.keepRulesPath source) (renderKeepRules source directives) origin false
  report d o := ([.diagnosed d], { o with diagnostics := o.diagnostics ++ [d] })

end Concretize
