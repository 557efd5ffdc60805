import Concretize.Decimal.Literal

/-!
# Doubles

Binary numbers of 53 bits with exact arithmetic on naturals: the double nearest to a quotient, the
double a literal is read as, and the shortest literal that names a double.
-/
namespace Concretize.Decimal

/-- The magnitude `significand * 2 ^ exponent`. -/
structure Double where
  significand : Nat
  exponent : Int
deriving DecidableEq, Repr

namespace Double

/-- Zero, which has the least exponent. -/
def zero : Double := ⟨0, -1074⟩

/-- A quotient rounded to the nearest natural, halves to the even one. -/
def roundHalfEven (n d : Nat) : Nat :=
  let q := n / d
  let twice := 2 * (n % d)
  if d < twice || (twice = d && q % 2 = 1) then q + 1 else q

/-- `n / d` scaled by `2 ^ (-e)`, as a numerator and a denominator. -/
def scaled (n d : Nat) (e : Int) : Nat × Nat :=
  (n * twoTo (-e).toNat, d * twoTo e.toNat)

/-- The double nearest to `n / d`, halves to the even one. The exponent is not bounded above. -/
def nearest (n d : Nat) : Double :=
  if n = 0 then zero
  else
    let low : Int := max (-1074) ((Nat.log2 n : Int) - Nat.log2 d - 53)
    let (a, b) := scaled n d low
    let exponent := if a / b < twoTo 53 then low else low + 1
    let (a, b) := scaled n d exponent
    let significand := roundHalfEven a b
    if significand < twoTo 53 then { significand, exponent }
    else { significand := twoTo 52, exponent := exponent + 1 }

/-- The exact value, as a numerator and a denominator. -/
def fraction (x : Double) : Nat × Nat :=
  (x.significand * twoTo x.exponent.toNat, twoTo (-x.exponent).toNat)

/-- The product, rounded. -/
def times (x y : Double) : Double :=
  let (a, b) := x.fraction
  let (c, d) := y.fraction
  nearest (a * c) (b * d)

/-- The quotient, rounded. -/
def dividedBy (x y : Double) : Double :=
  let (a, b) := x.fraction
  let (c, d) := y.fraction
  nearest (a * d) (b * c)

/-- The double nearest to a power of ten. -/
def powerOfTen (k : Nat) : Double := nearest (tenTo k) 1

/-- A double scaled by a power of ten in one rounded step; very small powers take two. -/
def scaleByTen (x : Double) (k : Int) : Double :=
  if x.significand = 0 then x
  else if 0 ≤ k then x.times (powerOfTen k.toNat)
  else if -308 ≤ k then x.dividedBy (powerOfTen (-k).toNat)
  else (x.dividedBy (powerOfTen 308)).dividedBy (powerOfTen (min 308 (-k - 308).toNat))

/-- The double a literal is read as: its leading digits up to 64 bits, scaled by its power of ten.
Each of the two steps rounds. -/
def ofLiteral (l : Literal) : Double :=
  let digits := (toString l.digits).toList
  let kept := ((List.range (digits.length + 1)).reverse.find? fun n =>
    Text.valueOf 10 (digits.take n) < twoTo 64).getD 0
  (nearest (Text.valueOf 10 (digits.take kept)) 1).scaleByTen
    (l.exponent + (digits.length - kept : Nat))

/-! ## Shortest literals -/

/-- The digits of the multiple of `10 ^ k` that is nearest to `x` among those that are read as `x`,
if there is one; of two equally near ones, the greater. -/
def roundedTo? (x : Double) (k : Int) : Option Nat :=
  let (a, b) := scaled 1 4 (-x.exponent)
  let unit := b * tenTo k.toNat
  let factor := a * tenTo (-k).toNat
  let value := 4 * x.significand * factor
  let below := if x.significand = twoTo 52 && -1074 < x.exponent then factor else 2 * factor
  let above := 2 * factor
  let isClosed := x.significand % 2 = 0
  let n := value / unit
  let rest := value % unit
  let down := rest < below || (isClosed && rest = below)
  let up := unit - rest < above || (isClosed && unit - rest = above)
  if up && (!down || unit ≤ 2 * rest) then some (n + 1)
  else if down then some n
  else none

/-- The shortest literal that is read as `x`, and of those the nearest. -/
def shortest (x : Double) : Literal :=
  let exponents := (List.range 700).map fun (i : Nat) => (309 : Int) - i
  let found := exponents.findSome? fun k => (x.roundedTo? k).map fun digits => (digits, k)
  match found with
  | some (digits, exponent) => { negative := false, digits, exponent }
  | none => { negative := false, digits := 0, exponent := 0 }

end Double

/-! ## Display -/

/-- A literal in plain form, with at least one digit on either side of the point. -/
def Literal.plain (l : Literal) : List Char :=
  let digits := (toString l.digits).toList ++ List.replicate l.exponent.toNat '0'
  let places := (-l.exponent).toNat
  let padded := List.replicate (places + 1 - digits.length) '0' ++ digits
  let (whole, fraction) := padded.splitAt (padded.length - places)
  whole ++ '.' :: (if fraction.isEmpty then ['0'] else fraction)

/-- A literal in scientific form: one digit, the others after a point, and the power of ten. -/
def Literal.scientific (l : Literal) : List Char :=
  let digits := (toString l.digits).toList
  let power := l.exponent + (digits.length - 1 : Nat)
  let fraction := digits.drop 1
  digits.take 1 ++ (if fraction.isEmpty then [] else '.' :: fraction) ++ 'e' ::
    (toString power).toList

/-- The shortest text of the double a literal is read as. Magnitudes below `1e-4` and from `1e16`
on are in scientific form. -/
def Literal.display (l : Literal) : String :=
  let x := Double.ofLiteral l
  let sign := if l.negative then ['-'] else []
  if x.significand = 0 then String.ofList (sign ++ ['0', '.', '0'])
  else
    let short := x.shortest
    let width := ((toString short.digits).length : Int) + short.exponent
    String.ofList (sign ++ if width < -3 || 16 < width then short.scientific else short.plain)

end Concretize.Decimal
