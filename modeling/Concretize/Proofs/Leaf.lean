import Concretize.Proofs.Lexing

/-!
# One token

What the reader of a token takes from the front of a text, told by the characters there. A token is
read as it stands if nothing behind it goes on with it (`Apart`), and the first characters tell the
kinds of tokens from each other.

* `literalFront_of_read`: what a literal begins with.
* `run_leaf_word`, `run_leaf_punct`, `run_leaf_quote`: words, characters of operators, and the quote
  of a lifetime.
* `leaf_opening`: an opening bracket is none of them.
-/
namespace Concretize.Code.Lexing

open Text Text.Reader

variable {cs rest : List Char}

/-! ## What literals begin with -/

/-- What a literal begins with. -/
inductive LiteralFront : List Char → Prop where
  | text {mark : List Char} (h : mark ∈ [[], ['b'], ['c']]) (more : List Char) :
      LiteralFront (mark ++ '"' :: more)
  | raw {mark hashes : List Char} (h : mark ∈ [[], ['b'], ['c']]) (hashed : ∀ c ∈ hashes, c = '#')
      (more : List Char) : LiteralFront (mark ++ 'r' :: (hashes ++ '"' :: more))
  | byte (more : List Char) : LiteralFront ('b' :: '\'' :: more)
  | escape (more : List Char) : LiteralFront ('\'' :: '\\' :: more)
  | character (c : Char) (more : List Char) : LiteralFront ('\'' :: c :: '\'' :: more)
  | number {c : Char} (digit : isDigit c) (more : List Char) : LiteralFront (c :: more)
  | unreadable (more : List Char) : LiteralFront (Literal.unreadable ++ more)

theorem literalFront_of_string {mark value : List Char} {f : Literal.Family}
    (known : mark ∈ [[], ['b'], ['c']])
    (h : (Literal.string mark f).run cs = some (value, rest)) : LiteralFront cs := by
  simp only [Literal.string, run_bind_eq_some] at h
  obtain ⟨_, mid, marked, _, mid', body, -⟩ := h
  rw [eq_append_of_chars marked]
  rcases of_run_orElse body with cooked | raw
  · simp only [Literal.cooked, run_bind_eq_some] at cooked
    obtain ⟨_, mid, quote, -⟩ := cooked
    rw [eq_cons_of_char quote]
    exact .text known mid
  · simp only [Literal.raw, run_bind_eq_some, run_many, Option.some_inj] at raw
    obtain ⟨_, mid, letter, hashes, mid', spanned, _, mid'', checked, _, more, quote, -⟩ := raw
    rw [List.span_eq_takeWhile_dropWhile, Prod.mk.injEq] at spanned
    rw [run_check] at checked
    split at checked <;> cases checked
    have hashed : ∀ c ∈ hashes, c = '#' := by
      intro c hc
      rw [← spanned.1] at hc
      simpa using List.mem_takeWhile_imp hc
    have rest_eq : mid = hashes ++ '"' :: more := by
      rw [← eq_cons_of_char quote, ← spanned.1, ← spanned.2, List.takeWhile_append_dropWhile]
    rw [eq_cons_of_char letter, rest_eq]
    exact .raw known hashed more

theorem literalFront_of_whole {u : Unit} (h : Literal.whole.run cs = some (u, rest)) :
    LiteralFront cs := by
  have zero (c : Char) (more : List Char) : LiteralFront (['0', c] ++ more) := .number (by decide) _
  simp only [Literal.whole, run_bind_eq_some] at h
  obtain ⟨b, mid, hex, h⟩ := h
  rcases cases_of_accept hex with ⟨-, rfl⟩ | ⟨rfl, rfl⟩
  · exact zero _ mid
  simp only [Bool.false_eq_true, if_false, run_bind_eq_some] at h
  obtain ⟨b, mid, octal, h⟩ := h
  rcases cases_of_accept octal with ⟨-, rfl⟩ | ⟨rfl, rfl⟩
  · exact zero _ mid
  simp only [Bool.false_eq_true, if_false, run_bind_eq_some] at h
  obtain ⟨b, mid, binary, h⟩ := h
  rcases cases_of_accept binary with ⟨-, rfl⟩ | ⟨rfl, rfl⟩
  · exact zero _ mid
  simp only [Bool.false_eq_true, if_false, run_bind_eq_some] at h
  obtain ⟨_, _, peeked, _, _, digit, -⟩ := h
  rw [run_peek, Option.some_inj, Prod.mk.injEq] at peeked
  obtain ⟨rfl, rfl⟩ := peeked
  rw [run_check] at digit
  cases mid with
  | nil => cases digit
  | cons c more =>
    split at digit
    · next found => exact .number found more
    · cases digit

theorem literalFront_of_read {text : List Char} (h : Literal.read.run cs = some (text, rest)) :
    LiteralFront cs := by
  rw [Literal.read, run_taken, Option.map_eq_some_iff] at h
  obtain ⟨⟨u, mid⟩, read, -⟩ := h
  rcases of_run_orElse read with plain | read
  · simp only [run_bind_eq_some] at plain
    obtain ⟨_, _, plain, -⟩ := plain
    exact literalFront_of_string (by simp) plain
  rcases of_run_orElse read with bytes | read
  · simp only [run_bind_eq_some] at bytes
    obtain ⟨_, _, bytes, -⟩ := bytes
    exact literalFront_of_string (by simp) bytes
  rcases of_run_orElse read with foreign | read
  · simp only [run_bind_eq_some] at foreign
    obtain ⟨_, _, foreign, -⟩ := foreign
    exact literalFront_of_string (by simp) foreign
  rcases of_run_orElse read with byte | read
  · simp only [Literal.byte, run_bind_eq_some] at byte
    obtain ⟨_, more, mark, -⟩ := byte
    rw [eq_append_of_chars mark]
    exact .byte more
  rcases of_run_orElse read with character | read
  · simp only [Literal.character, run_bind_eq_some] at character
    obtain ⟨_, mid, quote, c, mid', body, _, more, quote', -⟩ := character
    rw [eq_cons_of_char quote]
    rcases of_run_orElse body with escaped | single
    · simp only [run_bind_eq_some] at escaped
      obtain ⟨_, mid, mark, -⟩ := escaped
      rw [eq_cons_of_char mark]
      exact .escape mid
    · rw [eq_cons_of_one single, eq_cons_of_char quote']
      exact .character c more
  rcases of_run_orElse read with float | read
  · simp only [Literal.float, run_bind_eq_some] at float
    obtain ⟨c, mid, first, -⟩ := float
    rw [eq_cons_of_one first]
    exact .number (of_run_one first) mid
  rcases of_run_orElse read with whole | unreadable
  · exact literalFront_of_whole whole
  · rw [eq_append_of_chars unreadable]
    exact .unreadable _


/-- What stands behind the first character of a literal, where it matters. -/
theorem LiteralFront.cons_cases {c : Char} (h : LiteralFront (c :: cs)) :
    c ∈ ['"', 'b', 'c'] ∨ isDigit c ∨
      (c = 'r' ∧ ∃ hashes more, cs = hashes ++ '"' :: more ∧ ∀ d ∈ hashes, d = '#') ∨
      (c = '\'' ∧ ((∃ more, cs = '\\' :: more) ∨ ∃ d more, cs = d :: '\'' :: more)) ∨
      (c = '(' ∧ ['/', '*'] <+: cs) := by
  generalize whole : c :: cs = text at h
  cases h with
  | text known more =>
    simp only [List.mem_cons, List.not_mem_nil, or_false] at known
    rcases known with rfl | rfl | rfl <;> cases whole <;> exact .inl (by decide)
  | @raw mark hashes known hashed more =>
    simp only [List.mem_cons, List.not_mem_nil, or_false] at known
    rcases known with rfl | rfl | rfl <;> cases whole
    · exact .inr (.inr (.inl ⟨rfl, hashes, more, rfl, hashed⟩))
    · exact .inl (by decide)
    · exact .inl (by decide)
  | byte more =>
    cases whole
    exact .inl (by decide)
  | escape more =>
    cases whole
    exact .inr (.inr (.inr (.inl ⟨rfl, .inl ⟨more, rfl⟩⟩)))
  | character d more =>
    cases whole
    exact .inr (.inr (.inr (.inl ⟨rfl, .inr ⟨d, more, rfl⟩⟩)))
  | number digit more =>
    cases whole
    exact .inr (.inl digit)
  | unreadable more =>
    cases whole
    exact .inr (.inr (.inr (.inr ⟨rfl, List.prefix_append ['/', '*'] _⟩)))

theorem LiteralFront.ne_nil (h : LiteralFront cs) : cs ≠ [] := by
  cases h <;> simp [Literal.unreadable]

theorem LiteralFront.head {c : Char} (h : LiteralFront (c :: cs)) :
    c ∈ ['"', 'b', 'c', 'r', '\'', '('] ∨ isDigit c := by
  rcases h.cons_cases with known | digit | ⟨rfl, -⟩ | ⟨rfl, -⟩ | ⟨rfl, -⟩
  · exact .inl (List.mem_append_left ['r', '\'', '('] known)
  · exact .inr digit
  · decide
  · decide
  · decide

/-! ## Words -/

/-- Nothing goes on with a word: no character of a name, and none that would make a literal of it.
-/
def Apart (cs : List Char) : Prop :=
  ∀ c ∈ cs.head?, isNameContinue c = false ∧ c ∉ ['"', '#', '\'']

theorem isNameContinue_of_isNameStart {c : Char} (h : isNameStart c) : isNameContinue c := by
  rw [isNameStart, Bool.or_eq_true, beq_iff_eq] at h
  rcases h with rfl | h
  · decide
  · rw [isNameContinue, h, Bool.true_or]

/-- The code points of blanks. -/
def blankCodes : List Nat :=
  List.range' 0x09 5 ++ [0x20, 0x85, 0xA0, 0x1680] ++ List.range' 0x2000 11 ++
    [0x200E, 0x200F, 0x2028, 0x2029, 0x202F, 0x205F, 0x3000]

theorem mem_blankCodes {c : Char} (h : isBlank c) : c.toNat ∈ blankCodes := by
  simp only [isBlank, Bool.or_eq_true, decide_eq_true_eq] at h
  rcases h with (h | rfl) | rfl
  · simp only [isSpace, Bool.or_eq_true, Bool.and_eq_true, decide_eq_true_eq, beq_iff_eq] at h
    simp only [blankCodes, List.mem_append, List.mem_range'_1, List.mem_cons, List.not_mem_nil,
      or_false]
    omega
  · decide
  · decide

theorem not_isBlank_of_isNameStart {c : Char} (h : isNameStart c) : isBlank c = false := by
  have none : ∀ n ∈ blankCodes, n ≠ '_'.toNat ∧ nameStartRanges.hasCode n = false := by
    decide +kernel
  rw [← Bool.not_eq_true]
  intro blank
  obtain ⟨other, outside⟩ := none _ (mem_blankCodes blank)
  rw [isNameStart, Bool.or_eq_true, beq_iff_eq] at h
  rcases h with rfl | start
  · exact other rfl
  · rw [Ranges.has, outside] at start
    cases start

theorem not_isBlank_of_isDigit {c : Char} (h : isDigit c) : isBlank c = false := by
  have none : ∀ n ∈ blankCodes, ¬ ('0'.toNat ≤ n ∧ n ≤ '9'.toNat) := by decide
  rw [isDigit, Bool.and_eq_true, decide_eq_true_eq, decide_eq_true_eq] at h
  rw [← Bool.not_eq_true]
  exact fun blank => none _ (mem_blankCodes blank) h

theorem not_isNameStart_of_isDigit {c : Char} (h : isDigit c) : isNameStart c = false := by
  have small : c.toNat < 0x41 := by
    rw [isDigit, Bool.and_eq_true, decide_eq_true_eq, decide_eq_true_eq] at h
    exact Nat.lt_of_le_of_lt h.2 (by decide)
  have outside : nameStartRanges.hasCode c.toNat = false := if_pos small
  have other : c ≠ '_' := by
    rintro rfl
    exact absurd small (by decide)
  rw [isNameStart, Ranges.has, outside, Bool.or_false, beq_eq_false_iff_ne]
  exact other

theorem IsName.continues {text : List Char} (h : IsName text) : ∀ c ∈ text, isNameContinue c := by
  obtain ⟨c, more, rfl, start, continues⟩ := h
  exact List.forall_mem_cons.2 ⟨isNameContinue_of_isNameStart start, continues⟩

theorem dropWhile_eq {p : Char → Bool} (h : ∀ c ∈ rest.head?, p c = false) :
    rest.dropWhile p = rest := by
  cases rest with
  | nil => rfl
  | cons c rest => rw [List.dropWhile_cons, h c rfl, if_neg Bool.false_ne_true]

theorem takeWhile_eq {p : Char → Bool} (h : ∀ c ∈ rest.head?, p c = false) :
    rest.takeWhile p = [] := by
  cases rest with
  | nil => rfl
  | cons c rest => rw [List.takeWhile_cons, h c rfl, if_neg Bool.false_ne_true]

theorem run_many_append {p : Char → Bool} (h : ∀ c ∈ cs, p c)
    (stop : ∀ c ∈ rest.head?, p c = false) : (many p).run (cs ++ rest) = some (cs, rest) := by
  rw [run_many, List.span_eq_takeWhile_dropWhile, List.takeWhile_append_of_pos h,
    List.dropWhile_append_of_pos h, dropWhile_eq stop, takeWhile_eq stop, List.append_nil]

/-- Behind a name, whatever its characters, comes the rest. -/
theorem dropWhile_name {text : List Char} (h : IsName text) (apart : Apart rest) :
    (text ++ rest).dropWhile isNameContinue = rest := by
  rw [List.dropWhile_append_of_pos h.continues, dropWhile_eq fun c hc => (apart c hc).1]

/-- No character of a name comes next. -/
def Stops (cs : List Char) : Prop := ∀ c ∈ cs.head?, isNameContinue c = false

theorem Apart.stops (h : Apart cs) : Stops cs := fun c hc => (h c hc).1

theorem run_name {text : List Char} (h : IsName text) (stops : Stops rest) :
    name.run (text ++ rest) = some (text, rest) := by
  obtain ⟨c, more, rfl, start, continues⟩ := h
  have many : (many isNameContinue).run (more ++ rest) = some (more, rest) :=
    run_many_append continues stops
  have first : (one isNameStart).run (c :: (more ++ rest)) = some (c, more ++ rest) := by
    rw [run_one, if_pos start]
  rw [List.cons_append, name, StateT.run_bind, first]
  simp [many]

/-- The first character that is not one of a name is `"`, `#` or `'`. -/
def Special (cs : List Char) : Prop :=
  (cs.dropWhile isNameContinue).head? ∈ [some '"', some '#', some '\'']

instance : DecidablePred Special := fun _ => inferInstanceAs (Decidable (_ ∈ _))

theorem Special.append (h : Special cs) (rest : List Char) : Special (cs ++ rest) := by
  unfold Special at h ⊢
  rw [List.dropWhile_append]
  cases behind : cs.dropWhile isNameContinue with
  | nil => simp [behind] at h
  | cons c more => simpa [behind] using h

theorem not_special_name {text : List Char} (h : IsName text) (apart : Apart rest) :
    ¬ Special (text ++ rest) := by
  intro special
  rw [Special, dropWhile_name h apart] at special
  cases rest with
  | nil => simp at special
  | cons c rest => exact (apart c rfl).2 (by simpa using special)

theorem run_anyName {text : List Char} (h : IsWord text) (apart : Apart rest) :
    anyName.run (text ++ rest) = some (text, rest) := by
  cases h with
  | plain h =>
    have marked : (accept rawMark).run (text ++ rest) = some (false, text ++ rest) := by
      rw [run_accept, if_neg]
      intro mark
      obtain ⟨more, same⟩ := List.isPrefixOf_iff_prefix.1 mark
      have special : Special rawMark := by decide
      exact not_special_name h apart (same ▸ special.append more)
    rw [anyName, StateT.run_bind, marked]
    exact run_name h apart.stops
  | @raw name h free =>
    have marked : (accept rawMark).run ('r' :: '#' :: (name ++ rest)) = some (true, name ++ rest) :=
      rfl
    rw [List.cons_append, List.cons_append, anyName, StateT.run_bind, marked]
    simpa [StateT.run_bind, run_name h apart.stops, run_check, rawMark] using free

theorem special_of_literalFront (h : LiteralFront cs) {c : Char} (hc : c ∈ cs.head?)
    (start : isNameStart c) : Special cs := by
  have marks : ∀ mark ∈ [[], ['b'], ['c']], Special (mark ++ ['"']) ∧
      Special (mark ++ ['r', '"']) ∧ Special (mark ++ ['r', '#']) := by decide
  have ticks : Special ['b', '\''] ∧ Special ['\''] := by decide
  cases h with
  | @text mark known more =>
    rw [← List.singleton_append, ← List.append_assoc]
    exact (marks mark known).1.append more
  | @raw mark hashes known hashed more =>
    cases hashes with
    | nil => simpa using (marks mark known).2.1.append more
    | cons d hashes =>
      obtain rfl := hashed d List.mem_cons_self
      simpa using (marks mark known).2.2.append (hashes ++ '"' :: more)
  | byte more => exact ticks.1.append more
  | escape more => exact ticks.2.append ('\\' :: more)
  | character d more => exact ticks.2.append (d :: '\'' :: more)
  | number digit more =>
    cases hc
    rw [not_isNameStart_of_isDigit digit] at start
    cases start
  | unreadable more =>
    cases hc
    exact absurd start (by decide)

theorem run_word {text : List Char} (h : IsWord text) (apart : Apart rest) :
    word.run (text ++ rest) = some (.word (String.ofList text), rest) := by
  have unmarked : ∀ mark ∈ literalMarks, ¬ mark <+: text ++ rest := by
    rintro mark known ⟨more, same⟩
    cases h with
    | plain h =>
      have special : ∀ mark ∈ literalMarks, Special mark := by decide
      exact not_special_name h apart (same ▸ (special mark known).append more)
    | raw h free =>
      obtain ⟨c, name, rfl, start, -⟩ := h
      have other : '"' ≠ c ∧ '#' ≠ c := by
        constructor <;> rintro rfl <;> exact absurd start (by decide)
      simp only [literalMarks, List.mem_cons, List.not_mem_nil, or_false] at known
      rcases known with rfl | rfl | rfl | rfl | rfl | rfl | rfl | rfl | rfl | rfl <;>
        simp_all
  have checked : (!literalMarks.any (·.isPrefixOf (text ++ rest))) = true := by simpa using unmarked
  simp only [word, StateT.run_bind, StateT.run_get, Option.pure_def, Option.bind_eq_bind,
    Option.bind_some, run_check, checked, if_true, run_anyName h apart]
  rfl

/-- No literal begins with a word that stands apart. -/
theorem not_literalFront_word {text : List Char} (h : IsWord text) (apart : Apart rest) :
    ¬ LiteralFront (text ++ rest) := by
  intro front
  cases h with
  | plain h =>
    have ⟨c, more, same, start, _⟩ := h
    exact not_special_name h apart (special_of_literalFront front (c := c) (same ▸ rfl) start)
  | raw h free =>
    obtain ⟨c, name, rfl, start, -⟩ := h
    have other : '"' ≠ c ∧ '#' ≠ c := by
      constructor <;> rintro rfl <;> exact absurd start (by decide)
    rcases front.cons_cases with known | digit | ⟨-, hashes, more, same, hashed⟩ | ⟨quote, -⟩ |
      ⟨bracket, -⟩
    · exact absurd known (by decide)
    · exact absurd digit (by decide)
    · cases hashes with
      | nil => simp at same
      | cons d hashes =>
        cases hashes with
        | nil => simp_all
        | cons e hashes => simp_all
    · exact absurd quote (by decide)
    · exact absurd bracket (by decide)

/-! ## One token -/

theorem read_eq_none (h : ¬ LiteralFront cs) : Literal.read.run cs = none := by
  cases read : Literal.read.run cs with
  | none => rfl
  | some r => exact absurd (literalFront_of_read read) h

theorem punctChar_eq_none (h : ∀ c ∈ cs.head?, c ∉ punctuation) : punctChar.run cs = none := by
  cases taken : punctChar.run cs with
  | none => rfl
  | some r =>
    obtain ⟨c, rest⟩ := r
    simp only [punctChar, run_bind_eq_some, run_comes, Option.some_inj, Prod.mk.injEq,
      run_check] at taken
    obtain ⟨_, _, ⟨-, rfl⟩, _, _, ⟨-, rfl⟩, _, mid, checked, first⟩ := taken
    split at checked <;> cases checked
    refine absurd ?_ (h c (eq_cons_of_one first ▸ rfl))
    exact List.contains_iff_mem.1 (of_run_one first)

/-- What no literal begins with is an operator or a word. -/
theorem run_leaf (h : ¬ LiteralFront cs) : leaf.run cs = (punct.run cs <|> word.run cs) := by
  have refused :
      (do return .literal (String.ofList (← Literal.read)) : Reader Token).run cs = none := by
    rw [StateT.run_bind, read_eq_none h]
    rfl
  exact run_orElse_of_none refused

theorem punct_eq_none (h : ∀ c ∈ cs.head?, c ∉ punctuation) : punct.run cs = none := by
  rw [punct, StateT.run_bind, punctChar_eq_none h]
  rfl

theorem IsWord.front {text : List Char} (h : IsWord text) :
    ∃ c more, text = c :: more ∧ isNameStart c := by
  cases h with
  | plain h =>
    obtain ⟨c, more, same, start, -⟩ := h
    exact ⟨c, more, same, start⟩
  | raw h free => exact ⟨_, _, rfl, by decide⟩

theorem not_mem_punctuation {c : Char} (start : isNameStart c) : c ∉ punctuation := by
  have none : punctuation.any isNameStart = false := by decide
  exact fun known => List.any_eq_false.1 none c known start

theorem run_leaf_word {text : List Char} (h : IsWord text) (apart : Apart rest) :
    leaf.run (text ++ rest) = some (.word (String.ofList text), rest) := by
  obtain ⟨c, more, same, start⟩ := h.front
  have other : punct.run (text ++ rest) = none := by
    refine punct_eq_none fun d hd => ?_
    rw [same] at hd
    cases hd
    exact not_mem_punctuation start
  rw [run_leaf (not_literalFront_word h apart), other, run_word h apart]
  rfl

theorem begins_of_head {c : Char} (bare : isBlank c = false) (h : c ≠ '/') :
    Begins (c :: cs) where
  bare d hd := by
    cases hd
    exact bare
  line mark := h (List.cons_prefix_cons.1 mark).1.symm
  block mark := h (List.cons_prefix_cons.1 mark).1.symm

theorem run_punctChar {c : Char} (known : c ∈ punctuation) (begins : Begins (c :: cs)) :
    punctChar.run (c :: cs) = some (c, cs) := by
  have first : (one punctuation.contains).run (c :: cs) = some (c, cs) := by
    rw [run_one, if_pos (List.contains_iff_mem.2 known)]
  have line := comes_line begins []
  have block := comes_block begins []
  simp [punctChar, line, block, run_check, first]

/-- An operator character. It is joined to the next one, if there is one. -/
theorem run_leaf_punct {c : Char} {joint : Bool} (known : c ∈ punctuation) (other : c ≠ '\'')
    (begins : Begins (c :: rest)) (joined : (punctChar.run rest).isSome = joint) :
    leaf.run (c :: rest) = some (.punct c joint, rest) := by
  have plain : ¬ LiteralFront (c :: rest) := by
    have none : ∀ c ∈ punctuation, c ≠ '\'' →
        ¬ (c ∈ ['"', 'b', 'c', 'r', '\'', '('] ∨ isDigit c) :=
      List.all_iff_forall_prop.1 (by decide)
    exact fun front => none c known other front.head
  have taken : punct.run (c :: rest) = some (.punct c joint, rest) := by
    simp [punct, run_punctChar known begins, other, joined]
  rw [run_leaf plain, taken]
  rfl

/-- What the quote of a lifetime can stand in front of: a word, or a literal that a name begins. -/
inductive NamesLifetime : Token → Prop where
  | word (w : String) : NamesLifetime (.word w)
  | literal {l : String} {name more : List Char} (h : IsName name)
      (same : l.toList = name ++ '"' :: more) : NamesLifetime (.literal l)

/-- A quote in front of a word that stands apart is none around a character. -/
theorem not_literalFront_quote {text : List Char} (h : IsWord text) (apart : Apart rest) :
    ¬ LiteralFront ('\'' :: (text ++ rest)) := by
  obtain ⟨c, more, same, start⟩ := h.front
  intro front
  rcases front.cons_cases with known | digit | ⟨raw, -⟩ |
    ⟨-, ⟨more, inside⟩ | ⟨d, more, inside⟩⟩ | ⟨bracket, -⟩
  · exact absurd known (by decide)
  · exact absurd digit (by decide)
  · exact absurd raw (by decide)
  · rw [same, List.cons_append, List.cons.injEq] at inside
    rw [inside.1] at start
    exact absurd start (by decide)
  · cases h with
    | plain h =>
      have continues : isNameContinue d := by
        rw [same, List.cons_append, List.cons.injEq] at inside
        exact inside.1 ▸ isNameContinue_of_isNameStart start
      have special : Special (text ++ rest) := by
        rw [inside, Special, List.dropWhile_cons, if_pos continues, List.dropWhile_cons,
          if_neg (by decide)]
        simp
      exact not_special_name h apart special
    | raw h free => simp at inside
  · exact absurd bracket (by decide)

theorem run_lifetimeName {text : List Char} (h : IsWord text) (apart : Apart rest) :
    lifetimeName.run (text ++ rest) = some ((), rest) := by
  simp only [lifetimeName, StateT.run_bind, run_comes, Option.bind_eq_bind, Option.bind_some,
    run_anyName h apart, run_peek]
  cases rest with
  | nil => rfl
  | cons d rest =>
    have other := (apart d rfl).2
    split
    · next found =>
      cases found
      exact absurd (by decide) other
    · next found =>
      cases found
      exact absurd (by decide) other
    · rfl

/-- The quote of a lifetime. -/
theorem run_leaf_quote (plain : ¬ LiteralFront ('\'' :: cs))
    (named : lifetimeName.run cs = some ((), rest)) :
    leaf.run ('\'' :: cs) = some (.punct '\'' true, cs) := by
  have begins : Begins ('\'' :: cs) := begins_of_head (by decide) (by decide)
  have taken : punct.run ('\'' :: cs) = some (.punct '\'' true, cs) := by
    simp [punct, run_punctChar (by decide) begins, named]
  rw [run_leaf plain, taken]
  rfl

section Marked
variable {name : List Char} (h : IsName name)
include h

/-- A quote in front of the mark of a string is none around a character. -/
theorem not_literalFront_marked : ¬ LiteralFront ('\'' :: (name ++ '"' :: cs)) := by
  obtain ⟨c, more, rfl, start, continues⟩ := h
  intro front
  rcases front.cons_cases with known | digit | ⟨raw, -⟩ |
    ⟨-, ⟨rest, inside⟩ | ⟨d, rest, inside⟩⟩ | ⟨bracket, -⟩
  · exact absurd known (by decide)
  · exact absurd digit (by decide)
  · exact absurd raw (by decide)
  · obtain rfl : c = '\\' := (List.cons.inj inside).1
    exact absurd start (by decide)
  · have second := (List.cons.inj inside).2
    cases more with
    | nil => exact absurd (List.cons.inj second).1 (by decide)
    | cons e more =>
      obtain rfl : e = '\'' := (List.cons.inj second).1
      exact absurd (continues _ List.mem_cons_self) (by decide)
  · exact absurd bracket (by decide)

theorem run_lifetimeName_marked : lifetimeName.run (name ++ '"' :: cs) = some ((), '"' :: cs) := by
  have stops : Stops ('"' :: cs) := by
    rintro c ⟨⟩
    decide
  have plain : rawMark.isPrefixOf (name ++ '"' :: cs) = false := by
    obtain ⟨c, more, rfl, -, continues⟩ := h
    rw [← Bool.not_eq_true, List.isPrefixOf_iff_prefix]
    intro mark
    have second := (List.cons_prefix_cons.1 mark).2
    cases more with
    | nil => exact absurd (List.cons_prefix_cons.1 second).1 (by decide)
    | cons d more =>
      obtain rfl : '#' = d := (List.cons_prefix_cons.1 second).1
      exact absurd (continues _ List.mem_cons_self) (by decide)
  have named : anyName.run (name ++ '"' :: cs) = some (name, '"' :: cs) := by
    rw [anyName, StateT.run_bind, run_accept, plain]
    exact run_name h stops
  simp [lifetimeName, run_comes, plain, named, run_peek]

end Marked

theorem word_eq_none (h : ∀ c ∈ cs.head?, isNameStart c = false) : word.run cs = none := by
  cases taken : word.run cs with
  | none => rfl
  | some r =>
    obtain ⟨text, -, isWord, rfl⟩ := of_run_word taken
    obtain ⟨c, more, rfl, start⟩ := isWord.front
    rw [h c rfl] at start
    cases start

/-- The bracket that opens a group. -/
def opening : Delimiter → Char
  | .round => '('
  | .square => '['
  | .curly => '\x7b'

/-- The bracket that closes a group. -/
def closing : Delimiter → Char
  | .round => ')'
  | .square => ']'
  | .curly => '\x7d'

/-- A bracket is no token by itself. -/
theorem leaf_opening {d : Delimiter} (h : ¬ ['/', '*'] <+: cs) :
    leaf.run (opening d :: cs) = none := by
  have plain : ¬ LiteralFront (opening d :: cs) := by
    intro front
    cases d with
    | round =>
      rcases front.cons_cases with known | digit | ⟨raw, -⟩ | ⟨quote, -⟩ | ⟨-, comment⟩
      · exact absurd known (by decide)
      · exact absurd digit (by decide)
      · exact absurd raw (by decide)
      · exact absurd quote (by decide)
      · exact h comment
    | square => exact absurd front.head (by decide)
    | curly => exact absurd front.head (by decide)
  have other : punct.run (opening d :: cs) = none := by
    refine punct_eq_none fun c hc => ?_
    cases hc
    cases d <;> decide
  have wordless : word.run (opening d :: cs) = none := by
    refine word_eq_none fun c hc => ?_
    cases hc
    cases d <;> decide
  rw [run_leaf plain, other, wordless]
  rfl

/-- A closing bracket. -/
def IsClosing (c : Char) : Prop := c = ')' ∨ c = ']' ∨ c = '\x7d'

instance : DecidablePred IsClosing := fun _ => inferInstanceAs (Decidable (_ ∨ _))

/-- A character that can begin code: it closes nothing, and is not the mark in front of a text. -/
def Opens (c : Char) : Prop := ¬ IsClosing c ∧ c ≠ '\uFEFF'

instance : DecidablePred Opens := fun _ => inferInstanceAs (Decidable (_ ∧ _))

section Fronts
variable {c : Char}

/-- The first character of a literal begins neither a blank nor a comment, and closes nothing. -/
theorem opens_of_class {p : Char → Bool} (h : p c)
    (none : ['/', ')', ']', '\x7d', '\uFEFF'].any p = false) : c ≠ '/' ∧ Opens c := by
  have other : c ∉ ['/', ')', ']', '\x7d', '\uFEFF'] :=
    fun known => List.any_eq_false.1 none c known h
  simpa [Opens, IsClosing, and_assoc] using other

theorem solid_of_literalFront (h : LiteralFront (c :: cs)) : Begins (c :: cs) ∧ Opens c := by
  have plain : ∀ d ∈ ['"', 'b', 'c', 'r', '\'', '('], isBlank d = false ∧ d ≠ '/' ∧ Opens d :=
    List.all_iff_forall_prop.1 (by decide)
  rcases h.head with known | digit
  · obtain ⟨bare, other, opens⟩ := plain c known
    exact ⟨begins_of_head bare other, opens⟩
  · obtain ⟨other, opens⟩ := opens_of_class digit (by decide)
    exact ⟨begins_of_head (not_isBlank_of_isDigit digit) other, opens⟩

theorem solid_of_isNameStart (h : isNameStart c) : Begins (c :: cs) ∧ Opens c := by
  obtain ⟨other, opens⟩ := opens_of_class h (by decide +kernel)
  exact ⟨begins_of_head (not_isBlank_of_isNameStart h) other, opens⟩

theorem opens_of_mem_punctuation (known : c ∈ punctuation) : Opens c := by
  have plain : ∀ d ∈ punctuation, Opens d := List.all_iff_forall_prop.1 (by decide)
  exact plain c known

theorem solid_of_mem_punctuation (known : c ∈ punctuation)
    (open' : c = '/' → ∀ d ∈ cs.head?, d ≠ '/' ∧ d ≠ '*') : Begins (c :: cs) ∧ Opens c := by
  have bare : ∀ d ∈ punctuation, isBlank d = false := List.all_iff_forall_prop.1 (by decide)
  refine ⟨⟨?_, ?_, ?_⟩, opens_of_mem_punctuation known⟩
  · rintro d ⟨⟩
    exact bare c known
  · rintro ⟨more, same⟩
    cases same
    exact (open' rfl '/' rfl).1 rfl
  · rintro ⟨more, same⟩
    cases same
    exact (open' rfl '*' rfl).2 rfl

end Fronts


end Concretize.Code.Lexing
