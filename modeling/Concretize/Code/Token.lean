/-!
# Tokens

Code is a list of tokens, and a bracketed part of it is one token that holds the tokens inside.
`Code.text` writes code in standard spacing: one space between two tokens, except after a character
that is joined to the next one. Reading such a text gives the same tokens back.
-/
namespace Concretize.Code

/-- A pair of brackets. -/
inductive Delimiter where
  | round
  | square
  | curly
deriving DecidableEq, Repr, Inhabited

/-- A token of code. -/
inductive Token where
  /-- An identifier or keyword; raw identifiers begin with `r#`. -/
  | word (text : String)
  /-- One character of an operator; `joint` if the operator goes on, or if it marks a lifetime. -/
  | punct (char : Char) (joint : Bool)
  /-- A literal as written, with its suffix. -/
  | literal (text : String)
  | group (delimiter : Delimiter) (inner : List Token)
deriving Inhabited

/-- What stands between a token and the one after it. -/
def Token.gap : Token → String
  | .punct _ true => ""
  | _ => " "

/-- A text between brackets. Curly brackets keep a distance. -/
def Delimiter.enclose (d : Delimiter) (inner : String) : String :=
  match d with
  | .round => "(" ++ inner ++ ")"
  | .square => "[" ++ inner ++ "]"
  | .curly => if inner.isEmpty then "\x7b \x7d" else "\x7b " ++ inner ++ " \x7d"

mutual

/-- A token as written. -/
def Token.text : Token → String
  | .word text => text
  | .punct char _ => String.singleton char
  | .literal text => text
  | .group delimiter inner => delimiter.enclose (Token.listText inner)

/-- Tokens in standard spacing. -/
def Token.listText : List Token → String
  | [] => ""
  | [t] => t.text
  | t :: ts => t.text ++ t.gap ++ Token.listText ts

end

mutual

/-- Whether a word occurs in a token, at any depth. -/
def Token.mentions (name : String) : Token → Bool
  | .word text => text == name
  | .punct .. => false
  | .literal _ => false
  | .group _ inner => Token.listMentions name inner

/-- Whether a word occurs in one of the tokens, at any depth. -/
def Token.listMentions (name : String) : List Token → Bool
  | [] => false
  | t :: ts => t.mentions name || Token.listMentions name ts

end

mutual

/-- The number of tokens in a token, itself included. -/
def Token.size : Token → Nat
  | .group _ inner => Token.listSize inner + 1
  | _ => 1

/-- The number of tokens at all depths. -/
def Token.listSize : List Token → Nat
  | [] => 0
  | t :: ts => t.size + Token.listSize ts

end

end Concretize.Code

namespace Concretize

/-- Code: a list of tokens. -/
abbrev Code := List Code.Token

namespace Code

/-- Code in standard spacing. -/
def text (code : Code) : String := Token.listText code

/-- Whether a word occurs in code, at any depth. -/
def mentions (name : String) (code : Code) : Bool := Token.listMentions name code

/-- The number of tokens in code, at all depths. -/
def size (code : Code) : Nat := Token.listSize code

/-- The characters of an operator: each but the last is joined to the next. -/
def ofOperator : List Char → Code
  | [] => []
  | [c] => [.punct c false]
  | c :: cs => .punct c true :: ofOperator cs

/-- Pieces of code with commas between them and, with `trailing`, after the last. -/
def withCommas (trailing : Bool) : List Code → Code
  | [] => []
  | [c] => if trailing then c ++ ofOperator [','] else c
  | c :: rest => c ++ ofOperator [','] ++ withCommas trailing rest

end Code

end Concretize
