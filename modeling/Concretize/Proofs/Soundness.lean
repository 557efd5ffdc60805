import Concretize.Proofs.Strings
import Mathlib.Data.Nat.Digits.Defs

/-!
# Code that was read

What a text is read as is sound: each word, literal and operator is as it is read on its own, and
joined to the next token where it says so. So code that was read once is read again from its text in
standard spacing.

* `isLiteral_ofText`: the literal that stands for the text of a documentation comment.
* `of_run_leaf`: what one token is read from.
* `sound_of_ofText?`: code that was read is sound.
* `ofText?_text_of_ofText?`: it is read again from its text.
-/
namespace Concretize.Code.Lexing

open Text Text.Reader Literal

variable {cs mid rest text : List Char}

/-! ## Texts as literals -/

theorem digitChar_hexadecimal {n : Nat} (h : n < 16) :
    isDigitOf 16 (Nat.digitChar n) ∧ digitValue? (Nat.digitChar n) = some n ∧
      Nat.digitChar n ≠ '_' := by
  have all : ∀ m < 16, isDigitOf 16 (Nat.digitChar m) ∧
      digitValue? (Nat.digitChar m) = some m ∧ Nat.digitChar m ≠ '_' := by
    decide
  exact all n h

/-- The hexadecimal digits of a number spell it. -/
theorem hexadecimal_toDigits (n : Nat) : (∀ c ∈ Nat.toDigits 16 n, isDigitOf 16 c ∧ c ≠ '_') ∧
    valueOf 16 (Nat.toDigits 16 n) = n := by
  induction n using Nat.strongRecOn with
  | ind n ih =>
    by_cases small : n < 16
    · obtain ⟨digit, value, plain⟩ := digitChar_hexadecimal small
      rw [Nat.toDigits_of_lt_base small]
      refine ⟨?_, ?_⟩
      · rintro c hc
        rw [List.mem_singleton.1 hc]
        exact ⟨digit, plain⟩
      · simp [valueOf, value]
    · obtain ⟨digits, value⟩ := ih (n / 16) (by omega)
      obtain ⟨digit, last, plain⟩ := digitChar_hexadecimal (Nat.mod_lt n (by decide : 0 < 16))
      rw [Nat.toDigits_of_base_le (by decide) (by omega)]
      refine ⟨?_, ?_⟩
      · rw [List.forall_mem_append, List.forall_mem_singleton]
        exact ⟨digits, digit, plain⟩
      · rw [valueOf, List.foldl_append]
        change (List.foldl _ (valueOf 16 _) _) = n
        rw [value]
        simp only [List.foldl_cons, List.foldl_nil, last, Option.getD_some]
        omega

theorem toNat_lt (c : Char) : c.toNat < 16 ^ 6 := by
  have valid : c.toNat.isValidChar := c.valid
  rcases valid with low | ⟨-, high⟩
  · exact low.trans (by decide)
  · exact high.trans (by decide)

theorem run_bracedHex (c : Char) (rest : List Char) :
    bracedHex.run ('\x7b' :: (hexCode c ++ '\x7d' :: rest)) = some (c.toNat, rest) := by
  obtain ⟨digits, value⟩ := hexadecimal_toDigits c.toNat
  have short : (hexCode c).length ≤ 6 := Nat.toDigits_length 16 c.toNat 6 (by decide) (toNat_lt c)
  obtain ⟨first, others, split⟩ : ∃ first others, hexCode c = first :: others :=
    List.exists_cons_of_ne_nil Nat.toDigits_ne_nil
  have digits' : ∀ d ∈ first :: others, isDigitOf 16 d ∧ d ≠ '_' := split ▸ digits
  have plain : others.filter (· ≠ '_') = others :=
    List.filter_eq_self.2 fun d hd => decide_eq_true (digits' d (List.mem_cons_of_mem _ hd)).2
  have counted : (many fun c => c = '_' || isDigitOf 16 c).run (others ++ '\x7d' :: rest) =
      some (others, '\x7d' :: rest) := by
    refine run_many_append (fun d hd => ?_) ?_
    · rw [(digits' d (List.mem_cons_of_mem _ hd)).1, Bool.or_true]
    · rintro d ⟨⟩
      rfl
  have few : decide ((first :: others).length ≤ 6) = true := decide_eq_true (split ▸ short)
  have value' : valueOf 16 (first :: others) = c.toNat := split ▸ value
  simp only [bracedHex, run_bind_eq_some, split, List.cons_append]
  refine ⟨(), _, rfl, first, _, ?_, others, _, counted, (), rest, rfl, (), rest, ?_, ?_⟩
  · rw [run_one, if_pos (digits' first List.mem_cons_self).1]
  · rw [plain, run_check, if_pos few]
  · rw [plain, value']
    rfl

theorem run_escape_unicode (c : Char) (rest : List Char) :
    (escape textFamily).run ('u' :: '\x7b' :: (hexCode c ++ '\x7d' :: rest)) = some (c, rest) := by
  have valid : c.toNat.isValidChar := c.valid
  have found : charOf? c.toNat = some c := by rw [charOf?, if_pos valid, Char.ofNat_toNat]
  simp only [escape, run_bind_eq_some]
  refine ⟨'u', _, rfl, run_bind_eq_some.2 ⟨c.toNat, rest, run_bracedHex c rest, ?_⟩⟩
  refine run_bind_eq_some.2 ⟨(), rest, rfl, ?_⟩
  rw [found]
  rfl

section Item
variable {f : Family} {c d : Char}

theorem item_of_escape (feed : d ≠ '\n') (returned : d ≠ '\r')
    (h : (escape f).run (d :: cs) = some (c, rest)) :
    (item f).run ('\\' :: d :: cs) = some ([c], rest) := by
  have whole : lineEnd.run ('\\' :: d :: cs) = none := starts_lineEnd.refused (by decide)
  have behind : lineEnd.run (d :: cs) = none := starts_lineEnd.refused (not_or.2 ⟨feed, returned⟩)
  have escaped : (do char '\\'; return [← escape f] : Reader (List Char)).run ('\\' :: d :: cs) =
      some ([c], rest) :=
    run_bind_eq_some.2 ⟨(), _, rfl, run_bind_eq_some.2 ⟨c, rest, h, rfl⟩⟩
  rw [item, run_orElse_of_none whole, run_orElse_of_none (continued_of_not_lineEnd behind),
    run_orElse_of_some escaped]

theorem item_of_plain (feed : c ≠ '\n') (returned : c ≠ '\r') (backslash : c ≠ '\\')
    (quote : c ≠ '"') (plain : f.plain c) : (item f).run (c :: cs) = some ([c], cs) := by
  have ended : lineEnd.run (c :: cs) = none := starts_lineEnd.refused (not_or.2 ⟨feed, returned⟩)
  have escaped : (do char '\\'; return [← escape f] : Reader (List Char)).run (c :: cs) = none := by
    rw [StateT.run_bind, run_char, if_neg backslash]
    rfl
  rw [item, run_orElse_of_none ended, run_orElse_of_none (starts_continued.refused backslash),
    run_orElse_of_none escaped, StateT.run_bind, run_one]
  simp [returned, backslash, quote, plain]

end Item

/-- The text for a character is read as one item of a string. -/
theorem item_escaped (c : Char) (rest : List Char) :
    ∃ v, (item textFamily).run (escaped c ++ rest) = some (v, rest) := by
  unfold escaped
  split
  · exact ⟨_, rfl⟩
  · exact ⟨_, rfl⟩
  · exact ⟨_, rfl⟩
  · exact ⟨_, rfl⟩
  · exact ⟨_, rfl⟩
  · exact ⟨_, rfl⟩
  · next nul tab feed returned backslash quote =>
    split
    · refine ⟨[c], ?_⟩
      have braced := item_of_escape (by decide) (by decide) (run_escape_unicode c rest)
      simpa using braced
    · exact ⟨[c], item_of_plain feed returned backslash quote rfl⟩

/-- A text is spelled character by character. -/
theorem spelled_cons (c : Char) (text : List Char) :
    ∃ here, spelled (c :: text) = here ++ spelled text ∧ 0 < here.length ∧
      ∀ rest, ∃ v, (item textFamily).run (here ++ rest) = some (v, rest) := by
  have filled {here : List Char} (read : ∀ rest, ∃ v, (item textFamily).run (here ++ rest) =
      some (v, rest)) : 0 < here.length := by
    obtain ⟨v, taken⟩ := read []
    obtain ⟨d, more, rfl, -⟩ := starts_item.front taken
    exact Nat.succ_pos _
  rw [spelled]
  split
  · next quote =>
    have read (rest : List Char) : ∃ v, (item textFamily).run ([c] ++ rest) = some (v, rest) := by
      subst quote
      exact ⟨_, rfl⟩
    exact ⟨[c], rfl, filled read, read⟩
  split
  · exact ⟨['\\', 'x', '0', '0'], rfl, by decide, fun rest => ⟨_, rfl⟩⟩
  · exact ⟨escaped c, rfl, filled (item_escaped c), item_escaped c⟩

theorem items_spelled (text rest : List Char) {n : Nat} (large : (spelled text).length ≤ n) :
    ∃ v, (repeatedUpTo (item textFamily) n).run (spelled text ++ '"' :: rest) =
      some (v, '"' :: rest) := by
  induction text generalizing n with
  | nil => exact ⟨[], repeatedUpTo_of_refused (starts_item.refused (not_not_intro rfl)) n⟩
  | cons c text ih =>
    obtain ⟨here, same, filled, read⟩ := spelled_cons c text
    rw [same, List.length_append] at large
    obtain ⟨n, rfl⟩ := Nat.exists_eq_add_of_lt (show 0 < n by omega)
    obtain ⟨others, taken⟩ := ih (show (spelled text).length ≤ 0 + n by omega)
    obtain ⟨v, first⟩ := read (spelled text ++ '"' :: rest)
    refine ⟨v ++ others, ?_⟩
    rw [same, List.append_assoc, repeatedUpTo_succ first, taken]
    rfl

/-- The literal that stands for a text is one. -/
theorem isLiteral_ofText (text : List Char) : IsLiteral ('"' :: spelled text ++ ['"']) := by
  obtain ⟨v, items⟩ := items_spelled text [] (n := (spelled text ++ ['"']).length)
    (by rw [List.length_append]; exact Nat.le_add_right _ _)
  have body : (cooked textFamily).run ('"' :: spelled text ++ ['"']) = some (v, []) := by
    simp only [cooked, run_bind_eq_some]
    refine ⟨(), spelled text ++ ['"'], rfl, v, ['"'], items, (), [], rfl, rfl⟩
  have whole : (string [] textFamily).run ('"' :: spelled text ++ ['"']) = some (v, []) := by
    simp only [string, run_bind_eq_some]
    exact ⟨(), _, rfl, v, [], run_orElse_of_some body, (), [], rfl, rfl⟩
  have read : Literal.read.run ('"' :: spelled text ++ ['"']) =
      some ('"' :: spelled text ++ ['"'], []) := by
    rw [Literal.read, run_taken,
      run_orElse_of_some (run_bind_eq_some.2 ⟨v, [], whole, rfl⟩)]
    simp
  exact (isLiteral_of_read read).2

/-! ## Parts of sound code -/

theorem Sound.tail {t : Token} {code : Code} (h : Sound (t :: code)) : Sound code := by
  cases h <;> assumption

theorem Sound.drop {code : Code} (h : Sound code) (n : Nat) : Sound (code.drop n) := by
  induction n generalizing code with
  | zero => exact h
  | succ n ih =>
    cases code with
    | nil => exact h
    | cons t code => exact ih h.tail

/-! ## Tokens -/

/-- The code that stands for a documentation comment. -/
def documentation (inner : Bool) (text : List Char) : Code :=
  let doc := .group .square [.word "doc", .punct '=' false, ofText text]
  if inner then [.punct '#' false, .punct '!' false, doc] else [.punct '#' false, doc]

theorem of_run_docComment {code : Code} (h : docComment.run cs = some (code, mid)) :
    ∃ inner text, code = documentation inner text := by
  simp only [docComment, run_bind_eq_some] at h
  obtain ⟨_, _, -, _, _, -, outer, _, -, inner, _, -, line, _, -, last⟩ := h
  cases line with
  | true =>
    simp only [if_true, run_bind_eq_some, run_pure_eq_some] at last
    obtain ⟨_, _, -, text, _, -, _, _, -, rfl, -⟩ := last
    exact ⟨_, _, rfl⟩
  | false =>
    simp only [Bool.false_eq_true, if_false, run_bind_eq_some, run_pure_eq_some] at last
    obtain ⟨text, _, -, _, _, -, rfl, -⟩ := last
    exact ⟨_, _, rfl⟩

theorem sound_documentation {inner : Bool} {text : List Char} {code : Code} (more : Sound code) :
    Sound (documentation inner text ++ code) := by
  have word : IsWord "doc".toList := .plain (by decide)
  have inside : Sound [.word "doc", .punct '=' false, ofText text] := by
    refine .word word (.single (by decide) (by decide) (.literal ?_ .nil))
    rw [String.toList_ofList]
    exact isLiteral_ofText text
  cases inner with
  | true => exact .single (by decide) (by decide) (.single (by decide) (by decide)
      (.group inside more))
  | false => exact .single (by decide) (by decide) (.group inside more)

/-- A character of an operator was read: it opens no comment. -/
theorem of_run_punctChar {c : Char} (h : punctChar.run cs = some (c, mid)) :
    cs = c :: mid ∧ c ∈ punctuation ∧ (c = '/' → ∀ d ∈ mid.head?, d ≠ '/' ∧ d ≠ '*') := by
  simp only [punctChar, run_bind_eq_some, run_comes, Option.some_inj, Prod.mk.injEq, run_check] at h
  obtain ⟨line, _, ⟨rfl, rfl⟩, block, _, ⟨rfl, rfl⟩, _, mid', plain, first⟩ := h
  split at plain <;> cases plain
  next plain =>
    have known := of_run_one first
    obtain rfl := eq_cons_of_one first
    rw [Bool.and_eq_true, Bool.not_eq_true', Bool.not_eq_true'] at plain
    refine ⟨rfl, List.contains_iff_mem.1 known, ?_⟩
    rintro rfl d hd
    obtain ⟨more, rfl⟩ := List.head?_eq_some_iff.1 hd
    constructor
    · rintro rfl
      exact absurd plain.1 (by simp)
    · rintro rfl
      exact absurd plain.2 (by simp)

/-- What was read as one token. -/
inductive OneToken : List Char → Token → List Char → Prop where
  | literal {text mid : List Char} (h : IsLiteral text) :
      OneToken (text ++ mid) (.literal (String.ofList text)) mid
  | word {text mid : List Char} (h : IsWord text) :
      OneToken (text ++ mid) (.word (String.ofList text)) mid
  | quote {mid : List Char} (named : (lifetimeName.run mid).isSome) :
      OneToken ('\'' :: mid) (.punct '\'' true) mid
  | punct {c : Char} {mid : List Char} (known : c ∈ punctuation) (other : c ≠ '\'')
      (open' : c = '/' → ∀ d ∈ mid.head?, d ≠ '/' ∧ d ≠ '*') :
      OneToken (c :: mid) (.punct c (punctChar.run mid).isSome) mid

theorem of_run_punct {t : Token} (h : punct.run cs = some (t, mid)) : OneToken cs t mid := by
  simp only [punct, run_bind_eq_some, StateT.run_get, Option.pure_def, Option.some_inj,
    Prod.mk.injEq] at h
  obtain ⟨c, mid', first, _, _, ⟨rfl, rfl⟩, h⟩ := h
  obtain ⟨rfl, known, open'⟩ := of_run_punctChar first
  split at h
  · next quote =>
    simp only [run_bind_eq_some, run_pure_eq_some, StateT.run_set, Option.pure_def,
      Option.some_inj, Prod.mk.injEq] at h
    obtain ⟨_, behind, named, _, _, ⟨-, rfl⟩, rfl, rfl⟩ := h
    subst quote
    exact .quote (Option.isSome_of_eq_some named)
  · next other =>
    obtain ⟨rfl, rfl⟩ := run_pure_eq_some.1 h
    exact .punct known other open'

theorem of_run_leaf {t : Token} (h : leaf.run cs = some (t, mid)) : OneToken cs t mid := by
  rcases of_run_orElse h with literal | h
  · simp only [run_bind_eq_some, run_pure_eq_some] at literal
    obtain ⟨text, mid', read, rfl, rfl⟩ := literal
    obtain ⟨rfl, isLiteral⟩ := isLiteral_of_read read
    exact .literal isLiteral
  rcases of_run_orElse h with punct | word
  · exact of_run_punct punct
  · obtain ⟨text, rfl, isWord, rfl⟩ := of_run_word word
    exact .word isWord

/-- The text of a token begins as it was read. -/
theorem OneToken.front {t : Token} {c : Char} (h : OneToken (c :: cs) t mid) :
    c ∈ t.text.toList.head? := by
  generalize whole : c :: cs = front at h
  have head {text : List Char} (filled : text ≠ []) (same : c :: cs = text ++ mid) :
      c ∈ text.head? := by
    obtain ⟨d, more, rfl⟩ := List.exists_cons_of_ne_nil filled
    rw [(List.cons.inj same).1]
    rfl
  cases h with
  | literal isLiteral =>
    rw [Token.text, String.toList_ofList]
    exact head isLiteral.ne_nil whole
  | word isWord =>
    obtain ⟨d, more, rfl, -⟩ := isWord.front
    rw [Token.text, String.toList_ofList]
    exact head (List.cons_ne_nil d more) whole
  | quote named =>
    cases whole
    rfl
  | punct known other open' =>
    cases whole
    simp [Token.text]

/-- A turn that reads code: the code is at an end, or it goes on with a comment that documents
something, a token or a group. -/
theorem tokens_succ_cases {n : Nat} {code : Code}
    (h : (tokens (n + 1)).run cs = some (code, rest)) :
    (code = [] ∧ skipBlank.run cs = some ((), rest)) ∨
      ∃ front first mid more, skipBlank.run cs = some ((), front) ∧ code = first ++ more ∧
      (tokens n).run mid = some (more, rest) ∧ (docComment.run front = some (first, mid) ∨
        (∃ t, leaf.run front = some (t, mid) ∧ first = [t]) ∨
        ∃ d inner cs', first = [.group d inner] ∧ front = opening d :: cs' ∧
          (tokens n).run cs' = some (inner, closing d :: mid)) := by
  simp only [tokens, run_bind_eq_some, run_peek, Option.some_inj, Prod.mk.injEq] at h
  obtain ⟨_, front, skipped, _, _, ⟨rfl, rfl⟩, h⟩ := h
  split at h
  · obtain ⟨rfl, rfl⟩ := run_pure_eq_some.1 h
    exact .inl ⟨rfl, skipped⟩
  split at h
  · obtain ⟨rfl, rfl⟩ := run_pure_eq_some.1 h
    exact .inl ⟨rfl, skipped⟩
  simp only [run_bind_eq_some, run_pure_eq_some] at h
  obtain ⟨first, mid, piece, more, mid', others, rfl, rfl⟩ := h
  refine .inr ⟨front, first, mid, more, skipped, rfl, others, ?_⟩
  have group {d : Delimiter}
      (h : (enclosed (tokens n) d (opening d) (closing d)).run front = some (first, mid)) :
      ∃ d inner cs', first = [.group d inner] ∧ front = opening d :: cs' ∧
        (tokens n).run cs' = some (inner, closing d :: mid) := by
    simp only [enclosed, run_bind_eq_some, run_pure_eq_some] at h
    obtain ⟨_, cs', bracket, inner, mid', inside, _, _, bracket', rfl, rfl⟩ := h
    exact ⟨d, inner, cs', rfl, eq_cons_of_char bracket, eq_cons_of_char bracket' ▸ inside⟩
  rcases of_run_orElse piece with doc | piece
  · exact .inl doc
  rcases of_run_orElse piece with single | piece
  · simp only [run_bind_eq_some, run_pure_eq_some] at single
    obtain ⟨t, mid', taken, rfl, rfl⟩ := single
    exact .inr (.inl ⟨t, taken, rfl⟩)
  rcases of_run_orElse piece with round | piece
  · exact .inr (.inr (group (d := .round) round))
  rcases of_run_orElse piece with square | curly
  · exact .inr (.inr (group (d := .square) square))
  · exact .inr (.inr (group (d := .curly) curly))

/-! ## Where code goes on -/

section Ahead
variable {n : Nat} {code : Code} {c : Char} {t : Token}

/-- Where code goes on with a character that is no bracket, a token is read. -/
theorem oneToken_of_tokens (begins : Begins (c :: cs)) (opens : ∀ d, c ≠ opening d)
    (closes : ¬ IsClosing c) (ends : ∀ d ∈ rest.head?, IsClosing d)
    (h : (tokens n).run (c :: cs) = some (code, rest)) :
    ∃ t mid more, code = t :: more ∧ OneToken (c :: cs) t mid := by
  cases n with
  | zero =>
    obtain ⟨rfl, rfl⟩ := run_pure_eq_some.1 h
    exact absurd (ends c rfl) closes
  | succ n =>
    rcases tokens_succ_cases h with
      ⟨rfl, skipped⟩ | ⟨front, first, mid, more, skipped, rfl, -, piece⟩
    · rw [skipBlank_eq begins] at skipped
      cases skipped
      exact absurd (ends c rfl) closes
    rw [skipBlank_eq begins] at skipped
    cases skipped
    rcases piece with doc | ⟨t, taken, rfl⟩ | ⟨d, inner, cs', rfl, bracket, -⟩
    · rw [docComment_eq begins] at doc
      cases doc
    · exact ⟨t, mid, more, rfl, of_run_leaf taken⟩
    · exact absurd (List.cons.inj bracket).1 (opens d)

theorem isNameStart_of_lifetimeName (h : (lifetimeName.run cs).isSome) :
    ∃ c more, cs = c :: more ∧ isNameStart c := by
  obtain ⟨⟨u, mid⟩, named⟩ := Option.isSome_iff_exists.1 h
  simp only [lifetimeName, run_bind_eq_some, run_comes, Option.some_inj, Prod.mk.injEq] at named
  obtain ⟨_, _, ⟨-, rfl⟩, text, _, word, -⟩ := named
  obtain ⟨isWord, rfl⟩ := of_run_anyName word
  obtain ⟨c, more, rfl, start⟩ := isWord.front
  exact ⟨c, more ++ _, rfl, start⟩

/-- A literal behind the quote of a lifetime is a string or a raw string without hashes, and not a
plain one: its mark is the name. -/
theorem named_of_literalFront {text : List Char} (front : LiteralFront text)
    (h : (lifetimeName.run (text ++ mid)).isSome) :
    ∃ name more, IsName name ∧ text = name ++ '"' :: more := by
  obtain ⟨c, whole, same, start⟩ := isNameStart_of_lifetimeName h
  have head (d : Char) (more : List Char) (shape : text = d :: more) : isNameStart d := by
    subst shape
    exact (List.cons.inj same).1 ▸ start
  have refused {cs : List Char} (shape : text ++ mid = cs) : (lifetimeName.run cs).isSome :=
    shape ▸ h
  cases front with
  | @text mark known more =>
    simp only [List.mem_cons, List.not_mem_nil, or_false] at known
    rcases known with rfl | rfl | rfl
    · exact absurd (head '"' more rfl) (by decide)
    · exact ⟨['b'], more, by decide, rfl⟩
    · exact ⟨['c'], more, by decide, rfl⟩
  | @raw mark hashes known hashed more =>
    simp only [List.mem_cons, List.not_mem_nil, or_false] at known
    cases hashes with
    | nil =>
      rcases known with rfl | rfl | rfl
      · exact ⟨['r'], more, by decide, rfl⟩
      · exact ⟨['b', 'r'], more, by decide, rfl⟩
      · exact ⟨['c', 'r'], more, by decide, rfl⟩
    | cons d hashes =>
      obtain rfl := hashed d List.mem_cons_self
      rcases known with rfl | rfl | rfl
      · cases hashes with
        | nil => cases refused rfl
        | cons d hashes =>
          obtain rfl := hashed d (by simp)
          cases refused rfl
      · cases refused rfl
      · cases refused rfl
  | byte more => cases refused rfl
  | escape more => exact absurd (head '\'' _ rfl) (by decide)
  | character d more => exact absurd (head '\'' _ rfl) (by decide)
  | number digit more =>
    have start := head _ _ rfl
    rw [not_isNameStart_of_isDigit digit] at start
    cases start
  | unreadable more => exact absurd (head '(' _ rfl) (by decide)

/-- What is read behind the quote of a lifetime names it. -/
theorem namesLifetime_of_oneToken (h : OneToken cs t mid) (named : (lifetimeName.run cs).isSome) :
    NamesLifetime t := by
  obtain ⟨c, more, same, start⟩ := isNameStart_of_lifetimeName named
  cases h with
  | @literal text mid isLiteral =>
    have front : LiteralFront text := by
      have read := literalFront_of_read (isLiteral [] closed_nil)
      rwa [List.append_nil] at read
    obtain ⟨name, more, isName, shape⟩ := named_of_literalFront front named
    exact .literal isName (by rw [String.toList_ofList, shape])
  | word isWord => exact .word _
  | quote _ =>
    obtain rfl := (List.cons.inj same).1
    exact absurd start (by decide)
  | punct known other open' =>
    obtain rfl := (List.cons.inj same).1
    exact absurd known (not_mem_punctuation start)

theorem OneToken.sound (h : OneToken cs t mid) (ends : ∀ d ∈ rest.head?, IsClosing d)
    (next : (tokens n).run mid = some (code, rest)) (more : Sound code) : Sound (t :: code) := by
  cases h with
  | literal isLiteral => exact .literal (by rwa [String.toList_ofList]) more
  | word isWord => exact .word (by rwa [String.toList_ofList]) more
  | quote named =>
    obtain ⟨c, cs, rfl, start⟩ := isNameStart_of_lifetimeName named
    obtain ⟨begins, opens⟩ : Begins (c :: cs) ∧ Opens c := solid_of_isNameStart start
    have noBracket (d : Delimiter) : c ≠ opening d := by
      rintro rfl
      cases d <;> exact absurd start (by decide)
    obtain ⟨t, mid, others, rfl, taken⟩ := oneToken_of_tokens begins noBracket opens.1 ends next
    exact .lifetime (namesLifetime_of_oneToken taken named) more
  | @punct c mid known other open' =>
    cases ahead : punctChar.run mid with
    | none => exact .single known other more
    | some r =>
      obtain ⟨d, behind⟩ := r
      obtain ⟨rfl, known', open''⟩ := of_run_punctChar ahead
      obtain ⟨begins, opens⟩ := solid_of_mem_punctuation known' open''
      have noBracket (e : Delimiter) : d ≠ opening e := by
        rintro rfl
        cases e <;> exact absurd known' (by decide)
      obtain ⟨t, mid, others, rfl, taken⟩ := oneToken_of_tokens begins noBracket opens.1 ends next
      exact .joint known other taken.front known' (fun slash => open' slash d rfl) more

end Ahead

/-- Code that was read up to its end or to a closing bracket is sound. -/
theorem sound_of_tokens {n : Nat} {code : Code} (h : (tokens n).run cs = some (code, rest))
    (ends : ∀ d ∈ rest.head?, IsClosing d) : Sound code := by
  induction n generalizing cs code rest with
  | zero =>
    obtain ⟨rfl, -⟩ := run_pure_eq_some.1 h
    exact .nil
  | succ n ih =>
    rcases tokens_succ_cases h with ⟨rfl, -⟩ | ⟨front, first, mid, more, -, rfl, next, piece⟩
    · exact .nil
    have sound : Sound more := ih next ends
    rcases piece with doc | ⟨t, taken, rfl⟩ | ⟨d, inner, cs', rfl, -, inside⟩
    · obtain ⟨inner, text, rfl⟩ := of_run_docComment doc
      exact sound_documentation sound
    · exact (of_run_leaf taken).sound ends next sound
    · refine .group (ih inside ?_) sound
      rintro c ⟨⟩
      cases d <;> decide

end Concretize.Code.Lexing

namespace Concretize.Code

open Lexing Text.Reader

variable {text : String} {code : Code}

/-- **Soundness.** Code that was read from a text is sound. -/
theorem sound_of_ofText? (h : ofText? text = some code) : Lexing.Sound code := by
  simp only [ofText?, readAll] at h
  split at h
  · next code' rest taken =>
    cases h
    simp only [run_bind_eq_some, run_pure_eq_some] at taken
    obtain ⟨_, mid, tokens, _, _, ended, rfl, -⟩ := taken
    refine sound_of_tokens tokens fun c hc => ?_
    rw [eq_nil_of_ended ended] at hc
    cases hc
  · cases h

/-- Code that was read from a text is read again from its text in standard spacing. -/
theorem ofText?_text_of_ofText? (h : ofText? text = some code) : ofText? code.text = some code :=
  ofText?_text (sound_of_ofText? h)

end Concretize.Code
