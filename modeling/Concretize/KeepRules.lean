import Concretize.Retention
import Concretize.SourceFile

/-!
# Keep rules

Directives as the rules file of one declaration. An interface is kept by name, an object with its
instance, and anything else with the constructor of the listed types.
-/
namespace Concretize

/-- What a rule keeps. -/
inductive KeepRule where
  | name (target : String)
  | instance (target : String)
  | constructor (target : String) (types : List String)
deriving DecidableEq, Repr

/-- The rule for a directive. -/
def Directive.rule (d : Directive) : KeepRule :=
  match d.kind with
  | .interface => .name d.target
  | .object => .instance d.target
  | _ => .constructor d.target d.parameterTypes

/-- The lines that keep `member` of the class `target`. -/
def memberLines (target member : String) : List String :=
  ["-keepnames class " ++ target,
   "-if class " ++ target,
   "-keepclassmembers class " ++ target ++ " \x7b",
   "    " ++ member,
   "\x7d"]

/-- The lines of a rule. -/
def KeepRule.lines : KeepRule → List String
  | .name target => ["-keepnames interface " ++ target]
  | .instance target => memberLines target ("public static final " ++ target ++ " INSTANCE;")
  | .constructor target types =>
    memberLines target ("public <init>(" ++ ", ".intercalate types ++ ");")

/-- The rules file of a declaration: each rule after an empty line. -/
def renderKeepRules (source : QualifiedName) (directives : List Directive) : String :=
  unlines (("# Generated by sealforge from " ++ source.text ++ ". Do not modify.") ::
    directives.flatMap fun d => "" :: d.rule.lines)

/-- The name of the rules file of a declaration. -/
def keepRulesFileName (source : QualifiedName) : String :=
  "sealforge-" ++ source.dottedText ++ ".pro"

end Concretize
