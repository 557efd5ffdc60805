import Concretize.Hierarchy
import Concretize.Settings
import Concretize.Storage.Path

/-!
# Source files

A generated hierarchy as a Kotlin file. `Hierarchy.sourceFile` decides what the file says, free of
layout; `SourceFile.render` lays it out with the indent and the header that the settings ask for.
Type names use `.` between segments, whatever separators the declaration uses.
-/
namespace Concretize

/-- One constructor parameter of a source file. -/
structure SourceParameter where
  /-- The annotations, one line each. -/
  markers : List String
  mutable : Bool
  name : String
  type : String
deriving DecidableEq, Repr

/-- One nested type of a source file. -/
structure SourceVariant where
  markers : List String
  modifiers : List String
  kind : String
  name : String
  /-- The constructor; empty if none is written. -/
  parameters : List SourceParameter
  /-- What is written after the colon. -/
  supertype : String
deriving DecidableEq, Repr

/-- What a source file says. -/
structure SourceFile where
  package : Option String
  /-- The first line of the documentation. -/
  summary : String
  markers : List String
  modifiers : List String
  kind : String
  name : String
  variants : List SourceVariant
deriving DecidableEq, Repr

/-! ## Content -/

/-- The order in which modifiers are written: visibility, inheritance, class form, others. -/
def Modifier.rank : Modifier → Nat
  | .isPublic | .isInternal | .isProtected | .isPrivate => 0
  | .isSealed | .isAbstract | .isOpen => 1
  | .isData | .isValue => 2
  | .other _ => 3

/-- Modifiers in the order in which they are written; those of equal rank keep their order. -/
def sourceModifiers (modifiers : List Modifier) : List String :=
  (modifiers.mergeSort fun a b => a.rank ≤ b.rank).map Modifier.keyword

/-- An annotation argument as written. -/
def MarkerArgument.source (a : MarkerArgument) : String :=
  match a.name with
  | some name => name ++ " = " ++ a.value
  | none => a.value

/-- An annotation as written, without indent. -/
def Marker.source (m : Marker) : String :=
  if m.arguments.isEmpty then "@" ++ m.name.text
  else "@" ++ m.name.text ++ "(" ++ ", ".intercalate (m.arguments.map MarkerArgument.source) ++ ")"

/-- A type as written: like its display, with `.` between the segments of every path. -/
def TypeRef.source : TypeRef → String
  | .placeholder => placeholderName
  | .concrete path arguments nullable =>
    let head := path.dottedText
    let body := if arguments.isEmpty then "" else "<" ++ ", ".intercalate (sources arguments) ++ ">"
    head ++ body ++ (if nullable then "?" else "")
where
  /-- The types of a list as written. -/
  sources : List TypeRef → List String
    | [] => []
    | t :: ts => source t :: sources ts

/-- The parameter at `index` as written. -/
def Parameter.source (p : Parameter) (index : Nat) : SourceParameter where
  markers := p.markers.map Marker.source
  mutable := p.mutable
  name := p.displayName index
  type := p.type.source

/-- A class parent is called, an interface parent is named. -/
def Supertype.source : Supertype → String
  | .extends parent => parent.simpleName ++ "()"
  | .implements parent => parent.simpleName

/-- A variant as written; only classes have a constructor. -/
def GeneratedVariant.source (v : GeneratedVariant) : SourceVariant where
  markers := v.declaration.markers.map Marker.source
  modifiers := sourceModifiers v.declaration.modifiers
  kind := v.declaration.kind.keyword
  name := v.declaration.name
  parameters :=
    if v.declaration.kind = .klass then
      v.declaration.parameters.zipIdx.map fun (p, index) => p.source index
    else []
  supertype := v.supertype.source

/-- What the file of a hierarchy says. -/
def Hierarchy.sourceFile (h : Hierarchy) : SourceFile where
  package := h.name.dottedPackage?
  summary :=
    "A specialized sealed " ++ h.kind.keyword ++ " of [" ++ h.source.simpleName ++ "] for `" ++
      h.binding.type.display ++ "`."
  markers := h.markers.map Marker.source
  modifiers := sourceModifiers h.modifiers
  kind := h.kind.keyword
  name := h.simpleName
  variants := h.variants.map GeneratedVariant.source

/-! ## Layout -/

/-- The lines of a parameter below `indent`. -/
def SourceParameter.lines (p : SourceParameter) (indent : String) : List String :=
  p.markers.map (indent ++ ·) ++
    [indent ++ (if p.mutable then "var" else "val") ++ " `" ++ p.name ++ "`: " ++ p.type ++ ","]

/-- Modifiers, kind and name of a type, separated by spaces. -/
def headline (modifiers : List String) (kind name : String) : String :=
  " ".intercalate (modifiers ++ [kind, name])

/-- The lines of a variant below `indent`. -/
def SourceVariant.lines (v : SourceVariant) (indent : String) : List String :=
  let head := indent ++ headline v.modifiers v.kind v.name
  let heir := " : " ++ v.supertype
  v.markers.map (indent ++ ·) ++
    if v.parameters.isEmpty then [head ++ heir]
    else
      (head ++ "(") :: v.parameters.flatMap (·.lines (indent ++ indent)) ++ [indent ++ ")" ++ heir]

/-- The lines of variants, with an empty line between two of them. -/
def variantLines (indent : String) : List SourceVariant → List String
  | [] => []
  | [v] => v.lines indent
  | v :: vs => v.lines indent ++ "" :: variantLines indent vs

/-- The notice at the top of a generated file. -/
def headerLines : List String :=
  ["// This file was generated by sealforge.", "// Do not modify this file.", ""]

/-- The lines of a file. -/
def SourceFile.lines (f : SourceFile) (layout : Layout) : List String :=
  let indent := "".pushn ' ' layout.indentWidth
  (if layout.fileHeader then headerLines else []) ++
    (match f.package with
      | some package => ["package " ++ package, ""]
      | none => []) ++
    ["/**", " * " ++ f.summary, " */"] ++ f.markers ++
    [headline f.modifiers f.kind f.name ++ " \x7b"] ++ variantLines indent f.variants ++ ["\x7d"]

/-- Lines as text, each ended by a line feed. -/
def unlines (lines : List String) : String :=
  String.join (lines.map (· ++ "\n"))

/-- The text of a file. -/
def SourceFile.render (f : SourceFile) (layout : Layout) : String :=
  unlines (f.lines layout)

/-- The source text of a hierarchy. -/
def Hierarchy.render (h : Hierarchy) (layout : Layout) : String :=
  h.sourceFile.render layout

/-- Where the file of a hierarchy goes: one directory per package segment. -/
def Hierarchy.path (h : Hierarchy) : Storage.Path :=
  let directory : Storage.Path :=
    match h.name.dottedPackage? with
    | some package => (Storage.splitAt '.' package).foldl Storage.Path.push {}
    | none => {}
  directory.push (h.simpleName ++ ".kt")

end Concretize
