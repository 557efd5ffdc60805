import Concretize.Text.CaseTable

/-!
# Capitalizing a name

`capitalizeFirst` replaces a lowercase first character by its title form and leaves all else as it
is. The title form is the full uppercase mapping with everything after its first character put back
to lowercase (`ß` gives `Ss`, `ﬁ` gives `Fi`), except for the four digraphs that have a title form
of their own.
-/
namespace Concretize.Text

/-- Unicode property `Lowercase`. -/
def isLowercase (c : Char) : Bool :=
  lowercaseRuns.any (·.contains c.toNat)

/-- Full uppercase mapping of a lowercase character; other characters are left alone. -/
def upper (c : Char) : List Char :=
  match shifted? upperShifts c.toNat with
  | some u => [Char.ofNat u]
  | none =>
    match upperExpansions.lookup c.toNat with
    | some us => us.map Char.ofNat
    | none => [c]

/-- Full lowercase mapping. -/
def lower (c : Char) : List Char :=
  if c = 'İ' then ['i', '\u0307']
  else
    match shifted? lowerShifts c.toNat with
    | some l => [Char.ofNat l]
    | none => [c]

/-- Title form of a lowercase character. -/
def title : Char → List Char
  | 'ǆ' => ['ǅ']
  | 'ǉ' => ['ǈ']
  | 'ǌ' => ['ǋ']
  | 'ǳ' => ['ǲ']
  | c =>
    match upper c with
    | [] => []
    | head :: tail => head :: tail.flatMap lower

/-- Title-cases a lowercase first character. -/
def capitalizeChars : List Char → List Char
  | [] => []
  | c :: rest => if isLowercase c then title c ++ rest else c :: rest

/-- Title-cases a lowercase first character and keeps the rest of the text. -/
def capitalizeFirst (s : String) : String :=
  String.ofList (capitalizeChars s.toList)

end Concretize.Text
