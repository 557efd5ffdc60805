/-!
# Styles

Colours for text on a terminal: the sequence that sets the colour, the text, and the sequence that
takes the colour back.
-/
namespace Concretize.Console

/-- A foreground colour. -/
inductive Colour where
  | yellow
  | white
  | brightBlack
  | brightRed
  | brightGreen
  | brightYellow
  | brightBlue
  | brightMagenta
  | brightCyan
deriving DecidableEq, Repr

/-- The parameter that selects a colour. -/
def Colour.code : Colour → Nat
  | .yellow => 33
  | .white => 37
  | .brightBlack => 90
  | .brightRed => 91
  | .brightGreen => 92
  | .brightYellow => 93
  | .brightBlue => 94
  | .brightMagenta => 95
  | .brightCyan => 96

/-- The control sequence that selects a graphic rendition. -/
def rendition (code : Nat) : String := "\x1b[" ++ toString code ++ "m"

/-- A text in a colour. -/
def painted (c : Colour) (s : String) : String :=
  rendition c.code ++ s ++ rendition 39

/-- A text in bold. -/
def bold (s : String) : String := rendition 1 ++ s ++ rendition 0

end Concretize.Console
