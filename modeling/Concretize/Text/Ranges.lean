/-!
# Ranges of code points

A set of characters as the list of its ranges, each by its first and last code point.
-/
namespace Concretize.Text

/-- A set of code points: the first and the last of each range, in ascending order. -/
abbrev Ranges := List (Nat × Nat)

namespace Ranges

/-- Whether a code point is in one of the ranges. The search ends at the first range beyond it. -/
def hasCode : Ranges → Nat → Bool
  | [], _ => false
  | (first, last) :: rest, n =>
    if n < first then false else if n ≤ last then true else hasCode rest n

/-- Whether a character is in one of the ranges. -/
def has (rs : Ranges) (c : Char) : Bool := hasCode rs c.toNat

end Ranges

end Concretize.Text
