import Concretize.Json.Decoding
import Concretize.Output

/-!
# Dependencies

The record of which output was derived from which source, for a build to tell what to redo.
`Output.writeDependencies` writes it, and `Dependency.readAll` reads it back as a map from paths.
-/
namespace Concretize

open Json (Decoder decodeBool decodeList decodeRecord decodeString mismatch)

/-! ## Writing -/

/-- What a file depends on. -/
def OutputRecord.toJson (r : OutputRecord) : Json :=
  .object [("aggregating", .bool r.aggregating), ("sources", .array (r.source.toList.map .text))]

namespace Output

/-- The dependencies of all files, by path. -/
def dependencies (o : Output) : Json :=
  .object (o.records.map fun r => (r.path.text, r.toJson))

/-- Writes the dependencies of all files to a path. -/
def writeDependencies (o : Output) (p : Storage.Path) : Output × Option OutputError :=
  let (storage, e) := writeFile o.storage p o.dependencies.pretty
  ({ o with storage }, e)

end Output

/-! ## Reading -/

/-- Adds an entry to a map in path order. An entry for the same path keeps its key and gets the new
value. -/
def insertEntry {α : Type} (p : Storage.Path) (a : α) :
    List (Storage.Path × α) → List (Storage.Path × α)
  | [] => [(p, a)]
  | (q, b) :: rest =>
    if p.same q then (q, a) :: rest
    else if p.before q then (p, a) :: (q, b) :: rest
    else (q, b) :: insertEntry p a rest

/-- A map from paths, given as entries. -/
def mapOfEntries {α : Type} (entries : List (Storage.Path × α)) : List (Storage.Path × α) :=
  entries.foldl (fun map (p, a) => insertEntry p a map) []

/-- A map from paths. -/
def decodeMap {α : Type} (decode : Decoder α) : Decoder (List (Storage.Path × α))
  | depth, .object members ending =>
    match depth with
    | 0 => .error .malformed
    | depth + 1 => do
      let entries ← members.mapM fun (key, value) => do
        return ((⟨← key⟩ : Storage.Path), ← decode depth value)
      ending.require
      return mapOfEntries entries
  | _, r => .error (mismatch r)

/-- A set of paths. -/
def decodePaths : Decoder (List Storage.Path) := fun depth r =>
  (fun paths => (mapOfEntries (paths.map fun p => (⟨p⟩, ()))).map (·.1)) <$>
    decodeList decodeString depth r

/-- What a file was derived from, as the record says it. -/
structure Dependency where
  aggregating : Bool
  /-- The source files, in path order. -/
  sources : List Storage.Path
deriving DecidableEq, Repr

namespace Dependency

/-- What a file depends on. -/
def decode : Decoder Dependency :=
  decodeRecord (.required "aggregating" decodeBool <| .required "sources" decodePaths .nil)
    fun (aggregating, sources, _) => { aggregating, sources }

/-- Reads the text of a record of dependencies. -/
def readAll (text : String) : Except Json.Category (List (Storage.Path × Dependency)) :=
  Json.decodeAll (decodeMap decode) text

end Dependency

end Concretize
