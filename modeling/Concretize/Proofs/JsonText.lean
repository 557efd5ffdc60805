import Concretize.Json.Decoding
import Mathlib.Data.List.Basic
import Mathlib.Data.List.TakeDrop

/-!
# The texts of JSON values

`Says r cs`: the text `cs` is JSON, and what it says is `r`. Blanks may stand wherever JSON admits
them, characters may be escaped in every way, and numbers may have a sign, a fraction and an
exponent. A text between quotes need not be decodable: half of a surrogate pair is good enough for a
value that is skipped. What a value says itself is its `reading`, with closed containers and decoded
texts.

* `readText_quotes`: a text between quotes is decoded to what it says.
* `readNumber_of_isNumber`: a number is taken whole.
* `readValue_says`: whatever a text says is read from it, before every text that cannot go on a
  number.
* `says_writePretty`: the indented form of a value says its reading, at every depth.
* `read_says`, `read_pretty`: so whole texts are read, of which only blanks are left.
* `skipFault_of_says`: a JSON text can be skipped.
-/
namespace Concretize.Json

/-! ## Texts between quotes -/

/-- Four hexadecimal digits and their value. -/
inductive IsCode : List Char → Nat → Prop where
  | digits {a b c d : Char} {i j k l : Nat} (ha : hexValue? a = some i) (hb : hexValue? b = some j)
      (hc : hexValue? c = some k) (hd : hexValue? d = some l) :
      IsCode [a, b, c, d] (((i * 16 + j) * 16 + k) * 16 + l)

/-- A first half of a surrogate pair. -/
def IsHigh (unit : Nat) : Prop := 0xD800 ≤ unit ∧ unit ≤ 0xDBFF

/-- A second half of a surrogate pair. -/
def IsLow (unit : Nat) : Prop := 0xDC00 ≤ unit ∧ unit ≤ 0xDFFF

/-- The escape of a second half of a surrogate pair comes next. -/
def OpensLow (es : List Char) : Prop :=
  ∃ ys k rest, es = '\\' :: 'u' :: (ys ++ rest) ∧ IsCode ys k ∧ IsLow k

/-- What characters between quotes say. Half of a surrogate pair on its own says nothing. -/
inductive Quotes : List Char → Except Category (List Char) → Prop where
  | nil : Quotes [] (.ok [])
  | plain {c : Char} {es : List Char} {s : Except Category (List Char)} (hq : c ≠ '"')
      (hb : c ≠ '\\') (hc : ¬ c.toNat < 0x20) (h : Quotes es s) : Quotes (c :: es) (s.map (c :: ·))
  | letter {e c : Char} {es : List Char} {s : Except Category (List Char)}
      (hc : simpleEscape? e = some c) (h : Quotes es s) :
      Quotes ('\\' :: e :: es) (s.map (c :: ·))
  | code {xs es : List Char} {n : Nat} {s : Except Category (List Char)} (hx : IsCode xs n)
      (hn : ¬ IsHigh n ∧ ¬ IsLow n) (h : Quotes es s) :
      Quotes ('\\' :: 'u' :: (xs ++ es)) (s.map (Char.ofNat n :: ·))
  | pair {xs ys es : List Char} {n k : Nat} {s : Except Category (List Char)} (hx : IsCode xs n)
      (hn : IsHigh n) (hy : IsCode ys k) (hk : IsLow k) (h : Quotes es s) :
      Quotes ('\\' :: 'u' :: (xs ++ '\\' :: 'u' :: (ys ++ es)))
        (s.map (Char.ofNat ((n - 0xD800) * 1024 + (k - 0xDC00) + 0x10000) :: ·))
  | half {xs es : List Char} {n : Nat} {s : Except Category (List Char)} (hx : IsCode xs n)
      (hn : IsLow n ∨ IsHigh n ∧ ¬ OpensLow es) (h : Quotes es s) :
      Quotes ('\\' :: 'u' :: (xs ++ es)) (.error .malformed)

theorem IsCode.length {xs : List Char} {n : Nat} (h : IsCode xs n) : xs.length = 4 := by
  cases h
  rfl

theorem length_le_utf8Length (cs : List Char) : cs.length ≤ utf8Length cs := by
  induction cs with
  | nil => exact Nat.le_refl 0
  | cons c cs ih =>
    have := c.utf8Size_pos
    simp only [utf8Length, List.foldr_cons, List.length_cons] at ih ⊢
    omega

theorem readHex4_code {xs : List Char} {n : Nat} (h : IsCode xs n) (rest : List Char) :
    readHex4 (xs ++ rest) = .ok (n, rest) := by
  cases h with
  | @digits a b c d i j k l ha hb hc hd =>
    have bytes := length_le_utf8Length [a, b, c, d]
    simp only [List.length_cons, List.length_nil] at bytes
    simp only [readHex4, List.cons_append, List.nil_append, List.take_succ_cons, List.take_zero,
      ha, hb, hc, hd]
    rw [if_neg (by omega)]

theorem simpleEscape?_u : simpleEscape? 'u' = none := by decide

theorem skipText_code {xs : List Char} {n : Nat} (h : IsCode xs n) (bound : Nat)
    (rest : List Char) :
    skipText (bound + 1) ('\\' :: 'u' :: (xs ++ rest)) = skipText bound rest := by
  simp [skipText, readHex4_code h, bind, Except.bind]

theorem skipText_plain {c : Char} (hq : c ≠ '"') (hb : c ≠ '\\') (hc : ¬ c.toNat < 0x20)
    (bound : Nat) (rest : List Char) :
    skipText (bound + 1) (c :: rest) = skipText bound rest := by
  rw [skipText, if_neg hc]
  all_goals simp [hq, hb]

theorem skipText_letter {e c : Char} (h : simpleEscape? e = some c) (bound : Nat)
    (rest : List Char) :
    skipText (bound + 1) ('\\' :: e :: rest) = skipText bound rest := by
  have hu : e ≠ 'u' := fun he => by rw [he, simpleEscape?_u] at h; cases h
  simp [skipText, h]

theorem skipText_quotes {es : List Char} {s : Except Category (List Char)} (h : Quotes es s)
    (rest : List Char) {bound : Nat} (hb : es.length < bound) :
    skipText bound (es ++ '"' :: rest) = .ok rest := by
  induction h generalizing bound with
  | nil =>
    obtain ⟨bound, rfl⟩ := Nat.exists_eq_add_one_of_ne_zero (Nat.ne_of_gt hb)
    rfl
  | plain hq hb' hc h ih =>
    obtain ⟨bound, rfl⟩ := Nat.exists_eq_add_one_of_ne_zero (Nat.ne_of_gt (Nat.zero_lt_of_lt hb))
    rw [List.length_cons] at hb
    exact (skipText_plain hq hb' hc bound _).trans (ih (by omega))
  | letter hc h ih =>
    obtain ⟨bound, rfl⟩ := Nat.exists_eq_add_one_of_ne_zero (Nat.ne_of_gt (Nat.zero_lt_of_lt hb))
    simp only [List.length_cons] at hb
    exact (skipText_letter hc bound _).trans (ih (by omega))
  | code hx hn h ih =>
    obtain ⟨bound, rfl⟩ := Nat.exists_eq_add_one_of_ne_zero (Nat.ne_of_gt (Nat.zero_lt_of_lt hb))
    simp only [List.length_cons, List.length_append, List.cons_append, List.append_assoc] at hb ⊢
    exact (skipText_code hx bound _).trans (ih (by omega))
  | pair hx hn hy hk h ih =>
    obtain ⟨bound, rfl⟩ : ∃ k, bound = k + 1 + 1 := ⟨bound - 2, by
      simp only [List.length_cons, List.length_append] at hb; omega⟩
    simp only [List.length_cons, List.length_append, List.cons_append, List.append_assoc] at hb ⊢
    exact (skipText_code hx _ _).trans ((skipText_code hy bound _).trans (ih (by omega)))
  | half hx hn h ih =>
    obtain ⟨bound, rfl⟩ := Nat.exists_eq_add_one_of_ne_zero (Nat.ne_of_gt (Nat.zero_lt_of_lt hb))
    simp only [List.length_cons, List.length_append, List.cons_append, List.append_assoc] at hb ⊢
    exact (skipText_code hx bound _).trans (ih (by omega))

theorem readUnicodeEscape_code {xs : List Char} {n : Nat} (hx : IsCode xs n)
    (hn : ¬ IsHigh n ∧ ¬ IsLow n) (rest : List Char) :
    readUnicodeEscape (xs ++ rest) = .ok (Char.ofNat n, rest) := by
  obtain ⟨high, low⟩ := hn
  simp only [IsHigh, IsLow] at high low
  simp only [readUnicodeEscape, readHex4_code hx, bind, Except.bind]
  rw [if_neg (by omega), if_pos (by omega)]

theorem readUnicodeEscape_pair {xs ys : List Char} {n k : Nat} (hx : IsCode xs n) (hn : IsHigh n)
    (hy : IsCode ys k) (hk : IsLow k) (rest : List Char) :
    readUnicodeEscape (xs ++ '\\' :: 'u' :: (ys ++ rest)) =
      .ok (Char.ofNat ((n - 0xD800) * 1024 + (k - 0xDC00) + 0x10000), rest) := by
  simp only [IsHigh, IsLow] at hn hk
  simp only [readUnicodeEscape, readHex4_code hx, bind, Except.bind]
  rw [if_neg (by omega), if_neg (by omega)]
  simp only [readHex4_code hy]
  rw [if_neg (by omega)]

/-- What follows the first half of a pair is looked at before anything else is said of it. -/
theorem readUnicodeEscape_half {xs es : List Char} {n : Nat} {s : Except Category (List Char)}
    (hx : IsCode xs n) (hn : IsLow n ∨ IsHigh n ∧ ¬ OpensLow es) (h : Quotes es s)
    (rest : List Char) :
    readUnicodeEscape (xs ++ (es ++ '"' :: rest)) = .error .malformed := by
  simp only [readUnicodeEscape, readHex4_code hx, bind, Except.bind]
  rcases hn with low | ⟨high, unpaired⟩
  · simp only [IsLow] at low
    rw [if_pos low]
  simp only [IsHigh] at high
  rw [if_neg (by omega), if_neg (by omega)]
  have second {ys : List Char} {k : Nat} {tail : List Char} (hy : IsCode ys k)
      (he : es = '\\' :: 'u' :: (ys ++ tail)) : ¬ IsLow k :=
    fun hk => unpaired ⟨ys, k, tail, he, hy, hk⟩
  have code {ys : List Char} {k : Nat} {tail : List Char} (hy : IsCode ys k)
      (he : es = '\\' :: 'u' :: (ys ++ tail)) :
      (if k < 0xDC00 ∨ 0xDFFF < k then (.error .malformed : Except Category (Char × List Char))
        else .ok (Char.ofNat ((n - 0xD800) * 1024 + (k - 0xDC00) + 0x10000), tail ++ '"' :: rest)) =
        .error .malformed := by
    have := second hy he
    simp only [IsLow] at this
    rw [if_pos (by omega)]
  cases h with
  | nil => rfl
  | @plain c es s hq hb hc h =>
    split
    · next he => exact absurd he (List.cons_ne_nil _ _)
    · next he => exact absurd (List.cons.inj he).1 hb
    · next he => exact absurd (List.cons.inj he).1 hb
    · rfl
  | @letter e c es s hc h =>
    have he : e ≠ 'u' := fun he => by rw [he, simpleEscape?_u] at hc; cases hc
    simp [he]
  | @code ys es k s hy hk h =>
    simpa [readHex4_code hy] using code hy rfl
  | @pair ys zs es k l s hy hk hz hl h =>
    simpa [readHex4_code hy] using code hy rfl
  | @half ys es k s hy hk h =>
    simpa [readHex4_code hy] using code hy rfl

theorem decodeText_plain {c : Char} (hq : c ≠ '"') (hb : c ≠ '\\') (hc : ¬ c.toNat < 0x20)
    (bound : Nat) (rest : List Char) :
    decodeText (bound + 1) (c :: rest) = (decodeText bound rest).map (c :: ·) := by
  rw [decodeText, if_neg hc]
  · rfl
  all_goals simp [hq, hb]

theorem decodeText_letter {e c : Char} (h : simpleEscape? e = some c) (bound : Nat)
    (rest : List Char) :
    decodeText (bound + 1) ('\\' :: e :: rest) = (decodeText bound rest).map (c :: ·) := by
  have hu : e ≠ 'u' := fun he => by rw [he, simpleEscape?_u] at h; cases h
  simp only [decodeText, h]
  rfl

theorem decodeText_quotes {es : List Char} {s : Except Category (List Char)} (h : Quotes es s)
    (rest : List Char) {bound : Nat} (hb : es.length < bound) :
    decodeText bound (es ++ '"' :: rest) = s := by
  induction h generalizing bound with
  | nil =>
    obtain ⟨bound, rfl⟩ := Nat.exists_eq_add_one_of_ne_zero (Nat.ne_of_gt hb)
    rfl
  | plain hq hb' hc h ih =>
    obtain ⟨bound, rfl⟩ := Nat.exists_eq_add_one_of_ne_zero (Nat.ne_of_gt (Nat.zero_lt_of_lt hb))
    rw [List.length_cons] at hb
    refine (decodeText_plain hq hb' hc bound _).trans ?_
    exact congrArg (Except.map _) (ih (by omega))
  | letter hc h ih =>
    obtain ⟨bound, rfl⟩ := Nat.exists_eq_add_one_of_ne_zero (Nat.ne_of_gt (Nat.zero_lt_of_lt hb))
    simp only [List.length_cons] at hb
    refine (decodeText_letter hc bound _).trans ?_
    exact congrArg (Except.map _) (ih (by omega))
  | @code xs es n s hx hn h ih =>
    obtain ⟨bound, rfl⟩ := Nat.exists_eq_add_one_of_ne_zero (Nat.ne_of_gt (Nat.zero_lt_of_lt hb))
    simp only [List.length_cons, List.length_append, List.cons_append, List.append_assoc] at hb ⊢
    have later : decodeText bound (es ++ '"' :: rest) = s := ih (by omega)
    simp only [decodeText, readUnicodeEscape_code hx hn, bind, Except.bind, later]
    cases s <;> rfl
  | @pair xs ys es n k s hx hn hy hk h ih =>
    obtain ⟨bound, rfl⟩ := Nat.exists_eq_add_one_of_ne_zero (Nat.ne_of_gt (Nat.zero_lt_of_lt hb))
    simp only [List.length_cons, List.length_append, List.cons_append, List.append_assoc] at hb ⊢
    have later : decodeText bound (es ++ '"' :: rest) = s := ih (by omega)
    simp only [decodeText, readUnicodeEscape_pair hx hn hy hk, bind, Except.bind, later]
    cases s <;> rfl
  | half hx hn h ih =>
    obtain ⟨bound, rfl⟩ := Nat.exists_eq_add_one_of_ne_zero (Nat.ne_of_gt (Nat.zero_lt_of_lt hb))
    simp only [List.cons_append, List.append_assoc, decodeText,
      readUnicodeEscape_half hx hn h, bind, Except.bind]

/-- A text after its opening quote is taken up to its closing quote and decoded to what it says. -/
theorem readText_quotes {es : List Char} {s : Except Category (List Char)} (h : Quotes es s)
    (rest : List Char) {bound : Nat} (hb : es.length < bound) :
    readText bound (es ++ '"' :: rest) = .ok (s.map String.ofList, rest) := by
  rw [readText, skipText_quotes h rest hb, decodeText_quotes h rest hb]

/-! ## Numbers -/

/-- One or more digits. -/
def IsDigits (ds : List Char) : Prop := ds ≠ [] ∧ ∀ c ∈ ds, Text.isDigit c = true

/-- The digits before the point: zero, or digits that do not begin with it. -/
def IsWhole (ds : List Char) : Prop := IsDigits ds ∧ (ds.head? = some '0' → ds = ['0'])

/-- The point and the digits after it, or nothing. -/
inductive IsFraction : List Char → Prop where
  | none : IsFraction []
  | digits {ds : List Char} (h : IsDigits ds) : IsFraction ('.' :: ds)

/-- The power of ten that a number is multiplied by, or nothing. -/
inductive IsExponent : List Char → Prop where
  | none : IsExponent []
  | digits {e : Char} {sign ds : List Char} (he : e = 'e' ∨ e = 'E')
      (hs : sign = [] ∨ sign = ['+'] ∨ sign = ['-']) (h : IsDigits ds) :
      IsExponent (e :: (sign ++ ds))

/-- A number as JSON writes it. -/
inductive IsNumber : List Char → Prop where
  | parts {sign whole fraction exponent : List Char} (hs : sign = [] ∨ sign = ['-'])
      (hw : IsWhole whole) (hf : IsFraction fraction) (he : IsExponent exponent) :
      IsNumber (sign ++ (whole ++ (fraction ++ exponent)))

/-- The text does not go on a number. -/
def Stops (rest : List Char) : Prop :=
  ∀ c ∈ rest.head?, Text.isDigit c = false ∧ c ≠ '.' ∧ c ≠ 'e' ∧ c ≠ 'E'

/-- The text does not go on digits. -/
def EndsDigits (rest : List Char) : Prop := ∀ c ∈ rest.head?, Text.isDigit c = false

theorem Stops.endsDigits {rest : List Char} (h : Stops rest) : EndsDigits rest :=
  fun c hc => (h c hc).1

theorem span_digits {ds rest : List Char} (hd : IsDigits ds) (hr : EndsDigits rest) :
    (ds ++ rest).span Text.isDigit = (ds, rest) := by
  rw [List.span_eq_takeWhile_dropWhile, List.takeWhile_append_of_pos hd.2,
    List.dropWhile_append_of_pos hd.2]
  cases rest with
  | nil => simp
  | cons c rest =>
    have hc := hr c rfl
    simp [hc]

theorem readDigits_digits {ds rest : List Char} (hd : IsDigits ds) (hr : EndsDigits rest) :
    readDigits (ds ++ rest) = .ok (ds, rest) := by
  simp only [readDigits, span_digits hd hr, List.isEmpty_iff, hd.1, if_false]

theorem IsDigits.head {ds : List Char} (h : IsDigits ds) (rest : List Char) :
    ∃ c tail, ds ++ rest = c :: tail ∧ Text.isDigit c = true := by
  obtain ⟨c, cs, rfl⟩ := List.exists_cons_of_ne_nil h.1
  exact ⟨c, cs ++ rest, rfl, h.2 c List.mem_cons_self⟩

theorem readWhole_whole {ds rest : List Char} (hd : IsWhole ds) (hr : EndsDigits rest) :
    readWhole (ds ++ rest) = .ok (ds, rest) := by
  by_cases hz : ds.head? = some '0'
  · rw [hd.2 hz]
    cases rest with
    | nil => rfl
    | cons c rest =>
      have hc := hr c rfl
      simp [readWhole, hc]
  · have whole : readWhole (ds ++ rest) = readDigits (ds ++ rest) := by
      unfold readWhole
      split
      · next tail he =>
        rw [← List.head?_append_of_ne_nil ds hd.1.1, he] at hz
        exact absurd rfl hz
      · rfl
    rw [whole, readDigits_digits hd.1 hr]

theorem readFraction_fraction {ds rest : List Char} (hd : IsFraction ds)
    (hr : EndsDigits rest) (hp : rest.head? ≠ some '.') :
    readFraction (ds ++ rest) = .ok (ds, rest) := by
  cases hd with
  | none =>
    rw [List.nil_append]
    unfold readFraction
    split
    · next tail => exact absurd rfl hp
    · rfl
  | digits h =>
    simp only [List.cons_append, readFraction, readDigits_digits h hr, bind, Except.bind]
    rfl

theorem readExponent_stops {rest : List Char} (hr : Stops rest) :
    readExponent rest = .ok ([], rest) := by
  cases rest with
  | nil => rfl
  | cons c rest =>
    obtain ⟨-, -, he, hE⟩ := hr c rfl
    have hne : ¬ (c = 'e' ∨ c = 'E') := fun h => h.elim he hE
    simp only [readExponent, if_neg hne]

theorem readExponent_exponent {ds rest : List Char} (hd : IsExponent ds) (hr : Stops rest) :
    readExponent (ds ++ rest) = .ok (ds, rest) := by
  cases hd with
  | none => exact readExponent_stops hr
  | @digits e sign ds he hs h =>
    have digits := readDigits_digits h hr.endsDigits
    obtain ⟨c, tail, hc, hd⟩ := h.head rest
    have plus : c ≠ '+' := fun hp => by rw [hp] at hd; exact absurd hd (by decide)
    have minus : c ≠ '-' := fun hm => by rw [hm] at hd; exact absurd hd (by decide)
    rcases hs with rfl | rfl | rfl
    · rw [hc] at digits
      simp [readExponent, he, hc, plus, minus, digits, bind, Except.bind, pure, Except.pure]
    · simp [readExponent, he, digits, bind, Except.bind, pure, Except.pure]
    · simp [readExponent, he, digits, bind, Except.bind, pure, Except.pure]

theorem IsExponent.endsDigits {ds rest : List Char} (h : IsExponent ds) (hr : Stops rest) :
    EndsDigits (ds ++ rest) ∧ (ds ++ rest).head? ≠ some '.' := by
  cases h with
  | none => exact ⟨hr.endsDigits, fun hp => (hr '.' hp).2.1 rfl⟩
  | digits he hs h => rcases he with rfl | rfl <;> exact ⟨fun c hc => by cases hc; decide, by simp⟩

theorem IsFraction.endsDigits {ds rest : List Char} (h : IsFraction ds) (hr : EndsDigits rest) :
    EndsDigits (ds ++ rest) := by
  cases h with
  | none => exact hr
  | digits h => exact fun c hc => by cases hc; decide

/-- A number is taken whole if the text behind it cannot go on it. -/
theorem readNumber_of_isNumber {ds rest : List Char} (hd : IsNumber ds) (hr : Stops rest) :
    readNumber (ds ++ rest) = .ok (ds, rest) := by
  cases hd with
  | @parts sign whole fraction exponent hs hw hf he =>
    obtain ⟨ends, point⟩ := he.endsDigits hr
    have first := readWhole_whole hw (hf.endsDigits ends)
    have second := readFraction_fraction hf ends point
    have third := readExponent_exponent he hr
    obtain ⟨c, tail, hc, hd⟩ := hw.1.head (fraction ++ (exponent ++ rest))
    have minus : c ≠ '-' := fun hm => by rw [hm] at hd; exact absurd hd (by decide)
    simp only [List.append_assoc]
    rcases hs with rfl | rfl
    · rw [hc] at first
      simp [readNumber, hc, minus, first, second, third, bind, Except.bind, pure, Except.pure]
    · simp [readNumber, first, second, third, bind, Except.bind, pure, Except.pure]

theorem IsNumber.front {ds : List Char} (h : IsNumber ds) (rest : List Char) :
    ∃ c tail, ds ++ rest = c :: tail ∧ (c = '-' ∨ Text.isDigit c = true) := by
  cases h with
  | @parts sign whole fraction exponent hs hw hf he =>
    rcases hs with rfl | rfl
    · obtain ⟨c, tail, hc, hd⟩ := hw.1.head (fraction ++ exponent ++ rest)
      exact ⟨c, tail, by simpa using hc, .inr hd⟩
    · exact ⟨'-', _, rfl, .inl rfl⟩

theorem not_blank_of_isDigit {c : Char} (h : Text.isDigit c = true) :
    isBlank c = false ∧ c ≠ ']' := by
  constructor
  · rw [Bool.eq_false_iff]
    intro hb
    simp only [isBlank, Bool.or_eq_true, decide_eq_true_eq] at hb
    rcases hb with ((rfl | rfl) | rfl) | rfl <;> exact absurd h (by decide)
  · rintro rfl
    exact absurd h (by decide)

theorem dropWhile_isBlank_cons {c : Char} (h : isBlank c = false) (cs : List Char) :
    (c :: cs).dropWhile isBlank = c :: cs := by
  rw [List.dropWhile_cons, h]
  rfl

theorem readValue_isNumber {ds rest : List Char} (hd : IsNumber ds) (hr : Stops rest)
    (bound : Nat) : readValue (bound + 1) (ds ++ rest) = (.number ds, rest) := by
  have number := readNumber_of_isNumber hd hr
  obtain ⟨c, tail, hc, front⟩ := hd.front rest
  rw [hc] at number ⊢
  have blank : isBlank c = false := by
    rcases front with rfl | front
    · rfl
    · exact (not_blank_of_isDigit front).1
  rw [readValue, dropWhile_isBlank_cons blank]
  split
  case h_1 he => cases he
  case h_8 he =>
    cases he
    rw [if_pos (by simpa using front), number]
  all_goals next he => cases he; rcases front with front | front <;> exact absurd front (by decide)

/-! ## Values -/

/-- White space. -/
def Blank (cs : List Char) : Prop := ∀ c ∈ cs, isBlank c = true

theorem blank_nil : Blank [] := fun _ hc => nomatch hc

theorem blank_space : Blank [' '] := List.forall_mem_singleton.2 rfl

mutual

/-- The text is JSON and says this. -/
inductive Says : Reading → List Char → Prop where
  | null : Says .null ['n', 'u', 'l', 'l']
  | bool (b : Bool) : Says (.bool b) (if b then "true" else "false").toList
  | number {ds : List Char} (h : IsNumber ds) : Says (.number ds) ds
  | text {es : List Char} {s : Except Category (List Char)} (h : Quotes es s) :
      Says (.text (s.map String.ofList)) ('"' :: (es ++ ['"']))
  | noItems {ws : List Char} (h : Blank ws) : Says (.array [] .closed) ('[' :: (ws ++ [']']))
  | array {items : List Reading} {cs : List Char} (h : SaysItems items cs) :
      Says (.array items .closed) ('[' :: (cs ++ [']']))
  | noMembers {ws : List Char} (h : Blank ws) :
      Says (.object [] .closed) ('\x7b' :: (ws ++ ['\x7d']))
  | object {members : List (Except Category String × Reading)} {ws cs : List Char}
      (hw : Blank ws) (h : SaysMembers members cs) :
      Says (.object members .closed) ('\x7b' :: (ws ++ '"' :: (cs ++ ['\x7d'])))

/-- One or more values with commas between them. -/
inductive SaysItems : List Reading → List Char → Prop where
  | one {r : Reading} {ws cs vs : List Char} (hw : Blank ws) (h : Says r cs) (hv : Blank vs) :
      SaysItems [r] (ws ++ (cs ++ vs))
  | more {r : Reading} {rs : List Reading} {ws cs vs ds : List Char} (hw : Blank ws)
      (h : Says r cs) (hv : Blank vs) (others : SaysItems rs ds) :
      SaysItems (r :: rs) (ws ++ (cs ++ (vs ++ ',' :: ds)))

/-- One or more members with commas between them, from behind the opening quote of the first. -/
inductive SaysMembers : List (Except Category String × Reading) → List Char → Prop where
  | one {s : Except Category (List Char)} {r : Reading} {es us ts cs vs : List Char}
      (key : Quotes es s) (hu : Blank us) (ht : Blank ts) (h : Says r cs) (hv : Blank vs) :
      SaysMembers [(s.map String.ofList, r)] (es ++ '"' :: (us ++ ':' :: (ts ++ (cs ++ vs))))
  | more {s : Except Category (List Char)} {r : Reading}
      {rs : List (Except Category String × Reading)} {es us ts cs vs ws ds : List Char}
      (key : Quotes es s) (hu : Blank us) (ht : Blank ts) (h : Says r cs) (hv : Blank vs)
      (hw : Blank ws) (others : SaysMembers rs ds) :
      SaysMembers ((s.map String.ofList, r) :: rs)
        (es ++ '"' :: (us ++ ':' :: (ts ++ (cs ++ (vs ++ ',' :: (ws ++ '"' :: ds))))))

end

theorem dropWhile_blank {ws : List Char} (h : Blank ws) (cs : List Char) :
    (ws ++ cs).dropWhile isBlank = cs.dropWhile isBlank :=
  List.dropWhile_append_of_pos h

theorem readValue_blank {ws : List Char} (h : Blank ws) (bound : Nat) (cs : List Char) :
    readValue bound (ws ++ cs) = readValue bound cs := by
  cases bound with
  | zero => rfl
  | succ bound => rw [readValue, readValue, dropWhile_blank h]

theorem readItems_blank {ws : List Char} (h : Blank ws) (bound : Nat) (cs : List Char) :
    readItems bound (ws ++ cs) = readItems bound cs := by
  cases bound with
  | zero => rfl
  | succ bound => rw [readItems, readItems, readValue_blank h]

theorem stops_blank {ws rest : List Char} (h : Blank ws) (hr : Stops rest) :
    Stops (ws ++ rest) := by
  cases ws with
  | nil => exact hr
  | cons w ws =>
    intro c hc
    cases hc
    have blank := h w List.mem_cons_self
    simp only [isBlank, Bool.or_eq_true, decide_eq_true_eq] at blank
    rcases blank with ((rfl | rfl) | rfl) | rfl <;> decide

theorem stops_delimiter {c : Char} (hc : c = ',' ∨ c = ']' ∨ c = '\x7d') (cs : List Char) :
    Stops (c :: cs) := by
  intro x hx
  cases hx
  rcases hc with rfl | rfl | rfl <;> decide

/-- A value begins with a character that is no blank and closes nothing. -/
theorem Says.front {r : Reading} {cs : List Char} (h : Says r cs) :
    ∃ c tail, cs = c :: tail ∧ isBlank c = false ∧ c ≠ ']' := by
  cases h with
  | null => exact ⟨_, _, rfl, rfl, by decide⟩
  | bool b => cases b <;> exact ⟨_, _, rfl, rfl, by decide⟩
  | number h =>
    obtain ⟨c, tail, hc, front⟩ := h.front []
    rw [List.append_nil] at hc
    rcases front with rfl | front
    · exact ⟨_, tail, hc, rfl, by decide⟩
    · obtain ⟨hb, hn⟩ := not_blank_of_isDigit front
      exact ⟨c, tail, hc, hb, hn⟩
  | text h => exact ⟨_, _, rfl, rfl, by decide⟩
  | noItems h => exact ⟨_, _, rfl, rfl, by decide⟩
  | array h => exact ⟨_, _, rfl, rfl, by decide⟩
  | noMembers h => exact ⟨_, _, rfl, rfl, by decide⟩
  | object hw h => exact ⟨_, _, rfl, rfl, by decide⟩

/-- Items begin with a value, after blanks. -/
theorem SaysItems.front {rs : List Reading} {cs : List Char} (h : SaysItems rs cs)
    (rest : List Char) :
    ∃ ws c tail, cs ++ rest = ws ++ c :: tail ∧ Blank ws ∧ isBlank c = false ∧ c ≠ ']' := by
  cases h with
  | @one r ws cs vs hw h hv =>
    obtain ⟨c, tail, rfl, hb, hc⟩ := h.front
    exact ⟨ws, c, tail ++ vs ++ rest, by simp, hw, hb, hc⟩
  | @more r rs ws cs vs ds hw h hv others =>
    obtain ⟨c, tail, rfl, hb, hc⟩ := h.front
    exact ⟨ws, c, tail ++ vs ++ ',' :: ds ++ rest, by simp, hw, hb, hc⟩

theorem readValue_items {rs : List Reading} {cs : List Char} (h : SaysItems rs cs)
    (bound : Nat) (rest : List Char) :
    readValue (bound + 1) ('[' :: (cs ++ rest)) =
      let (items, ending, rest) := readItems bound (cs ++ rest)
      (.array items ending, rest) := by
  obtain ⟨ws, c, tail, he, hw, hb, hc⟩ := h.front rest
  rw [readValue, dropWhile_isBlank_cons rfl, he, readItems_blank hw]
  simp only [dropWhile_blank hw, dropWhile_isBlank_cons hb]
  split
  · next h => cases h; exact absurd rfl hc
  · next h => cases h
  · rfl

mutual

theorem readValue_says : ∀ {r : Reading} {cs : List Char}, Says r cs → ∀ (rest : List Char)
    (bound : Nat), Stops rest → 2 * (cs ++ rest).length < bound →
    readValue bound (cs ++ rest) = (r, rest)
  | _, _, _, _, 0, _, hb => absurd hb (Nat.not_lt_zero _)
  | _, _, .null, rest, bound + 1, _, _ => rfl
  | _, _, .bool true, rest, bound + 1, _, _ => rfl
  | _, _, .bool false, rest, bound + 1, _, _ => rfl
  | _, _, .number h, rest, bound + 1, hr, _ => readValue_isNumber h hr bound
  | _, _, @Says.text es _ h, rest, bound + 1, _, hb => by
    simp only [List.cons_append, List.append_assoc, List.nil_append, List.length_cons,
      List.length_append] at hb ⊢
    rw [readValue, dropWhile_isBlank_cons rfl]
    simp only
    rw [readText_quotes h rest (by omega)]
  | _, _, .noItems hw, rest, bound + 1, _, _ => by
    simp only [List.cons_append, List.append_assoc, List.nil_append]
    rw [readValue, dropWhile_isBlank_cons rfl]
    simp only [dropWhile_blank hw, dropWhile_isBlank_cons (c := ']') rfl]
  | _, _, @Says.array _ cs h, rest, bound + 1, _, hb => by
    simp only [List.cons_append, List.append_assoc, List.nil_append, List.length_cons,
      List.length_append] at hb ⊢
    have inner := readItems_says h rest bound
      (by simp only [List.length_cons, List.length_append]; omega)
    rw [readValue_items h, inner]
  | _, _, .noMembers hw, rest, bound + 1, _, _ => by
    simp only [List.cons_append, List.append_assoc, List.nil_append]
    rw [readValue, dropWhile_isBlank_cons rfl]
    simp only [dropWhile_blank hw, dropWhile_isBlank_cons (c := '\x7d') rfl]
  | _, _, @Says.object _ ws cs hw h, rest, bound + 1, _, hb => by
    simp only [List.cons_append, List.append_assoc, List.nil_append, List.length_cons,
      List.length_append] at hb ⊢
    have inner := readMembers_says h rest bound
      (by simp only [List.length_cons, List.length_append]; omega)
    rw [readValue, dropWhile_isBlank_cons rfl]
    simp only [dropWhile_blank hw, dropWhile_isBlank_cons (c := '"') rfl, inner]

theorem readItems_says : ∀ {rs : List Reading} {cs : List Char}, SaysItems rs cs →
    ∀ (rest : List Char) (bound : Nat), 2 * (cs ++ ']' :: rest).length + 1 < bound →
    readItems bound (cs ++ ']' :: rest) = (rs, .closed, rest)
  | _, _, _, _, 0, hb => absurd hb (Nat.not_lt_zero _)
  | _, _, @SaysItems.one _ ws cs vs hw h hv, rest, bound + 1, hb => by
    simp only [List.append_assoc, List.length_append, List.length_cons] at hb ⊢
    have first := readValue_says h (vs ++ ']' :: rest) bound
      (stops_blank hv (stops_delimiter (.inr (.inl rfl)) _))
      (by simp only [List.length_append, List.length_cons]; omega)
    rw [readItems, readValue_blank hw, first]
    simp only [dropWhile_blank hv, dropWhile_isBlank_cons (c := ']') rfl]
  | _, _, @SaysItems.more _ _ ws cs vs ds hw h hv others, rest, bound + 1, hb => by
    simp only [List.cons_append, List.append_assoc, List.length_append, List.length_cons] at hb ⊢
    have first := readValue_says h (vs ++ ',' :: (ds ++ ']' :: rest)) bound
      (stops_blank hv (stops_delimiter (.inl rfl) _))
      (by simp only [List.length_append, List.length_cons]; omega)
    have later := readItems_says others rest bound
      (by simp only [List.length_append, List.length_cons]; omega)
    obtain ⟨us, c, tail, he, hu, hb, hc⟩ := others.front (']' :: rest)
    rw [readItems, readValue_blank hw, first]
    rw [he] at later ⊢
    rw [readItems_blank hu] at later
    simp only [dropWhile_blank hv, dropWhile_isBlank_cons (c := ',') rfl, dropWhile_blank hu,
      dropWhile_isBlank_cons hb]
    split
    · next h => cases h; exact absurd rfl hc
    · next h => cases h
    · rw [later]

theorem readMembers_says : ∀ {rs : List (Except Category String × Reading)} {cs : List Char},
    SaysMembers rs cs → ∀ (rest : List Char) (bound : Nat),
    2 * (cs ++ '\x7d' :: rest).length + 1 < bound →
    readMembers bound (cs ++ '\x7d' :: rest) = (rs, .closed, rest)
  | _, _, _, _, 0, hb => absurd hb (Nat.not_lt_zero _)
  | _, _, @SaysMembers.one _ _ es us ts cs vs key hu ht h hv, rest, bound + 1, hb => by
    simp only [List.cons_append, List.append_assoc, List.length_append, List.length_cons] at hb ⊢
    have first := readValue_says h (vs ++ '\x7d' :: rest) bound
      (stops_blank hv (stops_delimiter (.inr (.inr rfl)) _))
      (by simp only [List.length_append, List.length_cons]; omega)
    rw [readMembers, readText_quotes key _ (by omega)]
    simp only [dropWhile_blank hu, dropWhile_isBlank_cons (c := ':') rfl, readValue_blank ht, first,
      dropWhile_blank hv, dropWhile_isBlank_cons (c := '\x7d') rfl]
  | _, _, @SaysMembers.more _ _ _ es us ts cs vs ws ds key hu ht h hv hw others, rest, bound + 1,
      hb => by
    simp only [List.cons_append, List.append_assoc, List.length_append, List.length_cons] at hb ⊢
    have first := readValue_says h (vs ++ ',' :: (ws ++ '"' :: (ds ++ '\x7d' :: rest))) bound
      (stops_blank hv (stops_delimiter (.inl rfl) _))
      (by simp only [List.length_append, List.length_cons]; omega)
    have later := readMembers_says others rest bound
      (by simp only [List.length_append, List.length_cons]; omega)
    rw [readMembers, readText_quotes key _ (by omega)]
    simp only [dropWhile_blank hu, dropWhile_isBlank_cons (c := ':') rfl, readValue_blank ht, first,
      dropWhile_blank hv, dropWhile_isBlank_cons (c := ',') rfl, dropWhile_blank hw,
      dropWhile_isBlank_cons (c := '"') rfl, later]

end

/-! ## The indented form -/

/-- What the text of a value says. -/
def reading : Json → Reading
  | .null => .null
  | .bool b => .bool b
  | .number n => .number (toString n).toList
  | .text s => .text (.ok s)
  | .array items => .array (readings items) .closed
  | .object members => .object (memberReadings members) .closed
where
  /-- What the texts of values say. -/
  readings : List Json → List Reading
    | [] => []
    | item :: items => reading item :: readings items
  /-- What the texts of members say. -/
  memberReadings : List (String × Json) → List (Except Category String × Reading)
    | [] => []
    | (key, value) :: members => (.ok key, reading value) :: memberReadings members

/-- How a character stands in a text: for itself, by a letter, or by its code. -/
inductive Written (c : Char) : List Char → Prop where
  | plain (hq : c ≠ '"') (hb : c ≠ '\\') (hc : ¬ c.toNat < 0x20) : Written c [c]
  | letter (e : Char) (h : simpleEscape? e = some c) (hu : e ≠ 'u') : Written c ['\\', e]
  | code (h : c.toNat < 0x20) :
      Written c ['\\', 'u', '0', '0', hexDigit (c.toNat / 16), hexDigit c.toNat]

theorem written_escapeChar (c : Char) : Written c (escapeChar c) := by
  unfold escapeChar
  split
  · next h => exact .letter _ (by rw [h]; rfl) (by decide)
  split
  · next h => exact .letter _ (by rw [h]; rfl) (by decide)
  split
  · next h => exact .letter _ (by rw [h]; rfl) (by decide)
  split
  · next h => exact .letter _ (by rw [h]; rfl) (by decide)
  split
  · next h => exact .letter _ (by rw [h]; rfl) (by decide)
  split
  · next h => exact .letter _ (by rw [h]; rfl) (by decide)
  split
  · next h => exact .letter _ (by rw [h]; rfl) (by decide)
  split
  · next h => exact .code h
  · next hq hb _ _ _ _ _ hc => exact .plain hq hb hc

theorem hexValue?_hexDigit (n : Nat) : hexValue? (hexDigit n) = some (n % 16) := by
  have all : ∀ m < 16, hexValue? ((Nat.toDigits 16 m).headD '0') = some m := by decide
  exact all (n % 16) (Nat.mod_lt n (by decide))

theorem quotes_flatMap (cs : List Char) : Quotes (cs.flatMap escapeChar) (.ok cs) := by
  induction cs with
  | nil => exact .nil
  | cons c cs ih =>
    rw [List.flatMap_cons]
    have written := written_escapeChar c
    generalize escapeChar c = es at written ⊢
    cases written with
    | plain hq hb hc => exact .plain hq hb hc ih
    | letter e h hu => exact .letter h ih
    | code h =>
      have unit : ((0 * 16 + 0) * 16 + c.toNat / 16 % 16) * 16 + c.toNat % 16 = c.toNat := by omega
      have zero : hexValue? '0' = some 0 := by decide
      have code := Quotes.code
        (.digits zero zero (hexValue?_hexDigit (c.toNat / 16)) (hexValue?_hexDigit c.toNat))
        (by simp only [IsHigh, IsLow]; omega) ih
      rw [unit, Char.ofNat_toNat] at code
      exact code

theorem isDigit_of_mem_toDigits {n : Nat} {c : Char} (h : c ∈ Nat.toDigits 10 n) :
    Text.isDigit c = true := by
  have hd := Nat.isDigit_of_mem_toDigits (by decide) (by decide) h
  simpa [Char.isDigit, Text.isDigit, Char.le_def] using hd

/-- Only zero is written with a leading zero. -/
theorem head?_toDigits_ne {n : Nat} (h : n ≠ 0) : (Nat.toDigits 10 n).head? ≠ some '0' := by
  induction n using Nat.strongRecOn with
  | ind n ih =>
    by_cases hn : n < 10
    · rw [Nat.toDigits_of_lt_base hn]
      have all : ∀ m < 10, m ≠ 0 → [m.digitChar].head? ≠ some '0' := by decide
      exact all n hn h
    · rw [Nat.toDigits_of_base_le (by decide) (by omega), List.head?_append_of_ne_nil _
        Nat.toDigits_ne_nil]
      exact ih (n / 10) (by omega) (by omega)

theorem toList_toString (n : Nat) : (toString n).toList = Nat.toDigits 10 n := by
  rw [Nat.toString_eq_ofList_toDigits, String.toList_ofList]

theorem isNumber_toString (n : Nat) : IsNumber (toString n).toList := by
  have digits : IsDigits (Nat.toDigits 10 n) :=
    ⟨Nat.toDigits_ne_nil, fun c hc => isDigit_of_mem_toDigits hc⟩
  have whole : IsWhole (Nat.toDigits 10 n) := by
    refine ⟨digits, fun hz => ?_⟩
    by_cases hn : n = 0
    · rw [hn]
      rfl
    · exact absurd hz (head?_toDigits_ne hn)
  have number := IsNumber.parts (.inl rfl) whole .none .none
  simpa only [List.nil_append, List.append_nil, toList_toString] using number

theorem blank_lineBreak (depth : Nat) : Blank (lineBreak depth) := by
  refine List.forall_mem_cons.2 ⟨rfl, fun c hc => ?_⟩
  rw [List.eq_of_mem_replicate hc]
  rfl

mutual

/-- The indented form of a value says its reading. -/
theorem says_writePretty : ∀ (v : Json) (depth : Nat), Says (reading v) (writePretty depth v)
  | .null, _ => .null
  | .bool b, _ => .bool b
  | .number n, _ => .number (isNumber_toString n)
  | .text s, depth => by
    have text := Says.text (quotes_flatMap s.toList)
    simpa only [writePretty, writeText, reading, Except.map, String.ofList_toList,
      List.cons_append] using text
  | .array [], _ => .noItems blank_nil
  | .array (item :: items), depth => by
    have items := saysItems_writePretty item items (depth + 1) depth
    simpa only [writePretty, reading, List.cons_append, List.append_assoc] using Says.array items
  | .object [], _ => .noMembers blank_nil
  | .object ((key, value) :: members), depth => by
    have members := saysMembers_writePretty key value members (depth + 1) depth
    simpa only [writePretty, writeText, reading, reading.memberReadings, List.cons_append,
      List.append_assoc, List.nil_append] using Says.object (blank_lineBreak (depth + 1)) members
termination_by v => sizeOf v

theorem saysItems_writePretty : ∀ (item : Json) (items : List Json) (depth outer : Nat),
    SaysItems (reading.readings (item :: items)) (lineBreak depth ++ (writePretty depth item ++
      (writePretty.moreItems depth items ++ lineBreak outer)))
  | item, [], depth, outer =>
    .one (blank_lineBreak depth) (says_writePretty item depth) (blank_lineBreak outer)
  | item, next :: items, depth, outer => by
    have others := saysItems_writePretty next items depth outer
    have all := SaysItems.more (blank_lineBreak depth) (says_writePretty item depth) blank_nil others
    simpa only [reading.readings, writePretty.moreItems, List.cons_append, List.append_assoc,
      List.nil_append] using all
termination_by item items => sizeOf item + sizeOf items

theorem saysMembers_writePretty : ∀ (key : String) (value : Json) (members : List (String × Json))
    (depth outer : Nat),
    SaysMembers ((.ok key, reading value) :: reading.memberReadings members)
      (key.toList.flatMap escapeChar ++ '"' :: ':' :: ' ' :: (writePretty depth value ++
        (writePretty.moreMembers depth members ++ lineBreak outer)))
  | key, value, [], depth, outer => by
    have last := SaysMembers.one (quotes_flatMap key.toList) blank_nil blank_space
      (says_writePretty value depth) (blank_lineBreak outer)
    simpa only [Except.map, String.ofList_toList, reading.memberReadings, writePretty.moreMembers,
      List.cons_append, List.nil_append] using last
  | key, value, (next, content) :: members, depth, outer => by
    have others := saysMembers_writePretty next content members depth outer
    have all := SaysMembers.more (quotes_flatMap key.toList) blank_nil blank_space
      (says_writePretty value depth) blank_nil (blank_lineBreak depth) others
    simpa only [Except.map, String.ofList_toList, reading.memberReadings, writePretty.moreMembers,
      writeText, List.cons_append, List.append_assoc, List.nil_append] using all
termination_by _ value members => sizeOf value + sizeOf members

end

/-! ## Whole texts -/

/-- The text is JSON, with blanks around it, and says this. -/
def TextSays (r : Reading) (text : String) : Prop :=
  ∃ ws cs vs, Blank ws ∧ Says r cs ∧ Blank vs ∧ text.toList = ws ++ (cs ++ vs)

/-- A whole text is read to the blanks at its end. -/
theorem read_says {r : Reading} {ws cs vs : List Char} {text : String} (h : Says r cs)
    (hw : Blank ws) (hv : Blank vs) (ht : text.toList = ws ++ (cs ++ vs)) :
    read text = (r, vs) := by
  have stops : Stops (vs ++ []) := stops_blank hv fun c hc => nomatch hc
  rw [List.append_nil] at stops
  have size : text.length = (ws ++ (cs ++ vs)).length := by rw [← ht, String.length_toList]
  rw [read, ht, readValue_blank hw]
  refine readValue_says h vs _ stops ?_
  simp only [size, List.length_append]
  omega

theorem toList_pretty (v : Json) : v.pretty.toList = [] ++ (writePretty 0 v ++ []) := by
  rw [pretty, String.toList_ofList, List.nil_append, List.append_nil]

theorem textSays_pretty (v : Json) : TextSays (reading v) v.pretty :=
  ⟨[], writePretty 0 v, [], blank_nil, says_writePretty v 0, blank_nil, toList_pretty v⟩

/-- Of what was written nothing is left. -/
theorem read_pretty (v : Json) : read v.pretty = (reading v, []) :=
  read_says (says_writePretty v 0) blank_nil blank_nil (toList_pretty v)

/-! ## Skipping -/

theorem itemsFault_eq_none_iff {items : List Reading} :
    skipFault.itemsFault items = none ↔ ∀ r ∈ items, skipFault r = none := by
  induction items with
  | nil => simp [skipFault.itemsFault]
  | cons r items ih => rw [skipFault.itemsFault, Option.or_eq_none_iff, ih, List.forall_mem_cons]

theorem membersFault_eq_none_iff {members : List (Except Category String × Reading)} :
    skipFault.membersFault members = none ↔ ∀ m ∈ members, skipFault m.2 = none := by
  induction members with
  | nil => simp [skipFault.membersFault]
  | cons m members ih =>
    rw [skipFault.membersFault, Option.or_eq_none_iff, ih, List.forall_mem_cons]

mutual

/-- What is JSON can be skipped. -/
theorem skipFault_of_says : ∀ {r : Reading} {cs : List Char}, Says r cs → skipFault r = none
  | _, _, .null | _, _, .bool _ | _, _, .number _ | _, _, .text _ => rfl
  | _, _, .noItems _ | _, _, .noMembers _ => rfl
  | _, _, .array h => by
    rw [skipFault, itemsFault_of_says h]
    rfl
  | _, _, .object _ h => by
    rw [skipFault, membersFault_of_says h]
    rfl

theorem itemsFault_of_says : ∀ {rs : List Reading} {cs : List Char}, SaysItems rs cs →
    skipFault.itemsFault rs = none
  | _, _, .one _ h _ => by rw [skipFault.itemsFault, skipFault_of_says h]; rfl
  | _, _, .more _ h _ others => by
    rw [skipFault.itemsFault, skipFault_of_says h, itemsFault_of_says others]
    rfl

theorem membersFault_of_says : ∀ {rs : List (Except Category String × Reading)} {cs : List Char},
    SaysMembers rs cs → skipFault.membersFault rs = none
  | _, _, .one _ _ _ h _ => by rw [skipFault.membersFault, skipFault_of_says h]; rfl
  | _, _, .more _ _ _ h _ _ others => by
    rw [skipFault.membersFault, skipFault_of_says h, membersFault_of_says others]
    rfl

end

end Concretize.Json
