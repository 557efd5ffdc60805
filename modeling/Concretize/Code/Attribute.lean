import Concretize.Code.Token

/-!
# Attributes and visibility

What stands in front of an item, a variant or a field. Both name things by paths without arguments.
-/
namespace Concretize.Code

/-- A path without arguments; `leading` if it begins with `::`. -/
structure ModPath where
  leading : Bool := false
  names : List String

namespace ModPath

/-- The names as code. -/
def namesCode : List String → Code
  | [] => []
  | [n] => [.word n]
  | n :: rest => .word n :: ofOperator [':', ':'] ++ namesCode rest

/-- The path as code. -/
def code (p : ModPath) : Code :=
  (if p.leading then ofOperator [':', ':'] else []) ++ namesCode p.names

/-- The path without spaces. -/
def text (p : ModPath) : String :=
  (if p.leading then "::" else "") ++ "::".intercalate p.names

end ModPath

/-- What an attribute says beyond its path. -/
inductive AttributeForm where
  | bare
  /-- Tokens between brackets, as they are. -/
  | list (delimiter : Delimiter) (tokens : Code)
  /-- An expression after an equals sign. -/
  | value (expression : Code)

/-- An attribute of the code after it. -/
structure Attribute where
  path : ModPath
  form : AttributeForm

/-- What an attribute says, as code. -/
def AttributeForm.code : AttributeForm → Code
  | .bare => []
  | .list delimiter tokens => [.group delimiter tokens]
  | .value expression => .punct '=' false :: expression

namespace Attribute

/-- The attribute without its brackets. -/
def content (a : Attribute) : Code := a.path.code ++ a.form.code

/-- The attribute as code. -/
def code (a : Attribute) : Code := [.punct '#' false, .group .square a.content]

/-- Attributes as code, one after the other. -/
def listCode (attributes : List Attribute) : Code := attributes.flatMap code

end Attribute

/-- Who may use something. -/
inductive Visibility where
  | inherited
  | everyone
  /-- Only the code under a path; `keyword` if the path stands after `in`. -/
  | restricted (keyword : Bool) (path : ModPath)

/-- The visibility as code. -/
def Visibility.code : Visibility → Code
  | .inherited => []
  | .everyone => [.word "pub"]
  | .restricted keyword path =>
    [.word "pub", .group .round ((if keyword then [.word "in"] else []) ++ path.code)]

end Concretize.Code
