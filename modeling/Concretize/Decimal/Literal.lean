import Concretize.Text.Digits

/-!
# Decimal literals

The digits and the power of ten that a literal such as `-12.5e3` spells, and whether it is too large
for a double.
-/
namespace Concretize.Decimal

/-- A power of two. -/
def twoTo (n : Nat) : Nat := Nat.pow 2 n

/-- A power of ten. -/
def tenTo (n : Nat) : Nat := Nat.pow 10 n

/-- A number as written: its digits, and the power of ten they are scaled by. -/
structure Literal where
  negative : Bool
  digits : Nat
  exponent : Int
deriving DecidableEq, Repr

/-- The literal that a sign, digits, a point, more digits and an exponent spell. -/
def Literal.read (lexeme : List Char) : Literal :=
  let negative := lexeme.head? = some '-'
  let (whole, rest) := (lexeme.dropWhile fun c => c = '-' || c = '+').span Text.isDigit
  let (fraction, rest) :=
    match rest with
    | '.' :: rest => rest.span Text.isDigit
    | _ => ([], rest)
  let power : Int :=
    match rest.drop 1 with
    | '-' :: power => -(Text.valueOf 10 power : Int)
    | '+' :: power => Text.valueOf 10 power
    | power => Text.valueOf 10 power
  { negative, digits := Text.valueOf 10 (whole ++ fraction), exponent := power - fraction.length }

/-- Whether the magnitude of a literal rounds to more than a double can hold. -/
def Literal.isHuge (l : Literal) : Bool :=
  let width : Int := (toString l.digits).length + l.exponent
  let bound : Nat := twoTo 1024 - twoTo 970
  l.digits ≠ 0 && (309 < width ||
    (width = 309 && bound * tenTo (-l.exponent).toNat ≤ l.digits * tenTo l.exponent.toNat))

end Concretize.Decimal
