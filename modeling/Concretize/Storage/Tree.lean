import Concretize.Storage.Fault
import Concretize.Storage.Path

/-!
# Storage trees

A file system as a value: what stands at each location below the working directory. Paths are
resolved step by step, so an access fails where a real one would: at a missing directory, at a file
used as a directory, at an overlong name. The top is its own parent, and absolute paths start there.

Storage may also fail for reasons that no path shows, such as a full disk. These mishaps are part of
the tree: one entry for every write to come, most of them empty.
-/
namespace Concretize.Storage

/-- What stands at a location. -/
inductive Node where
  | directory
  | file (text : String)
deriving DecidableEq, Repr

/-- The names that lead from the top to a location. -/
abbrev Location := List String

/-- A write that fails although its path allows it. -/
structure Mishap where
  fault : Fault
  /-- What the file holds afterwards, if it was opened before the fault. -/
  left : Option String := none
deriving DecidableEq, Repr

/-- What stands where. The top is always a directory. -/
structure Tree where
  nodes : List (Location × Node) := []
  /-- What befalls the next writes, one by one; after the last entry nothing does. -/
  mishaps : List (Option Mishap) := []
deriving DecidableEq, Repr

/-- The longest name in bytes. -/
def nameLimit : Nat := 255

/-- The longest path in bytes. -/
def pathLimit : Nat := 4095

namespace Tree

/-- What stands at a location, if anything. -/
def node? (t : Tree) (l : Location) : Option Node :=
  if l = [] then some .directory else t.nodes.lookup l

/-- Puts a node at a location, in place of what stood there. -/
def put (t : Tree) (l : Location) (n : Node) : Tree :=
  { t with nodes := (l, n) :: t.nodes.filter (·.1 ≠ l) }

/-- The location one step on; the current one must be a directory. -/
def enter (t : Tree) (l : Location) (name : String) : Except Fault Location :=
  match t.node? l with
  | none => .error .notFound
  | some (.file _) => .error .notADirectory
  | some .directory =>
    if name = "." then .ok l
    else if name = ".." then .ok l.dropLast
    else if nameLimit < name.utf8ByteSize then .error .nameTooLong
    else .ok (l ++ [name])

/-- The location a path leads to. All but the last step must exist. -/
def locate (t : Tree) (p : Path) : Except Fault Location :=
  if p.text.toList.any (· = '\x00') then .error .interiorNul
  else if p.text = "" then .error .notFound
  else if pathLimit < p.text.utf8ByteSize then .error .nameTooLong
  else (p.pieces.filter (· ≠ "")).foldlM t.enter []

/-- Whether the path ends in a slash, and so can only mean a directory. -/
def wantsDirectory (p : Path) : Bool := p.text.toList.getLast? = some '/'

/-- Whether a path leads to a directory. -/
def isDirectory (t : Tree) (p : Path) : Bool :=
  match t.locate p with
  | .ok l => t.node? l = some .directory
  | .error _ => false

/-- The text of a file. -/
def read (t : Tree) (p : Path) : Except Fault String := do
  let l ← t.locate p
  match t.node? l with
  | none => .error .notFound
  | some .directory => .error .isADirectory
  | some (.file text) => if wantsDirectory p then .error .notADirectory else .ok text

/-- Writes a file whose directory exists. -/
def write (t : Tree) (p : Path) (text : String) : Except Fault Tree := do
  let l ← t.locate p
  if wantsDirectory p then .error .isADirectory
  else
    match t.node? l with
    | some .directory => .error .isADirectory
    | _ => .ok (t.put l (.file text))

/-- Makes a directory whose parent exists. -/
def makeDirectory (t : Tree) (p : Path) : Except Fault Tree := do
  let l ← t.locate p
  match t.node? l with
  | some _ => .error .alreadyExists
  | none => .ok (t.put l .directory)

/-- What befalls the next write, and the storage in which that is over. -/
def nextMishap (t : Tree) : Option Mishap × Tree :=
  (t.mishaps.headD none, { t with mishaps := t.mishaps.tail })

/-- Writes a file whose directory exists, unless a mishap befalls the write. -/
def tryWrite (t : Tree) (p : Path) (text : String) : Tree × Option Fault :=
  match t.nextMishap with
  | (some m, t) =>
    match m.left.map (t.write p) with
    | some (.ok t) => (t, some m.fault)
    | _ => (t, some m.fault)
  | (none, t) =>
    match t.write p text with
    | .ok t => (t, none)
    | .error fault => (t, some fault)

/-- Makes a directory whose parent exists, unless a mishap befalls the attempt. -/
def tryMakeDirectory (t : Tree) (p : Path) : Tree × Option Fault :=
  match t.nextMishap with
  | (some m, t) => (t, some m.fault)
  | (none, t) =>
    match t.makeDirectory p with
    | .ok t => (t, none)
    | .error fault => (t, some fault)

/-- Makes a directory and every missing one above it. The bound is on the number of directories to
make; directories made before a fault stay. -/
def makeDirectoriesWithin : Nat → Tree → Path → Tree × Option Fault
  | 0, t, _ => (t, some .notFound)
  | bound + 1, t, p =>
    if p.components = [] then (t, none)
    else
      match t.tryMakeDirectory p with
      | (t, none) => (t, none)
      | (t, some .notFound) =>
        match p.parent? with
        | none => (t, some .notFound)
        | some above =>
          match makeDirectoriesWithin bound t above with
          | (t, some fault) => (t, some fault)
          | (t, none) =>
            match t.tryMakeDirectory p with
            | (t, none) => (t, none)
            | (t, some fault) => if t.isDirectory p then (t, none) else (t, some fault)
      | (t, some fault) => if t.isDirectory p then (t, none) else (t, some fault)

/-- Makes a directory and every missing one above it. -/
def makeDirectories (t : Tree) (p : Path) : Tree × Option Fault :=
  makeDirectoriesWithin (p.text.length + 2) t p

/-- All files, with their paths. -/
def files (t : Tree) : List (String × String) :=
  t.nodes.filterMap fun (l, n) =>
    match n with
    | .directory => none
    | .file text => some ("/".intercalate l, text)

end Tree

end Concretize.Storage
