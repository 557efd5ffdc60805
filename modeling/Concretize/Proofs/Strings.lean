import Concretize.Proofs.Literals

/-!
# Strings read again

Strings, characters and bytes are closed by what opened them, so that nothing behind them matters
but a suffix. With the numbers, all kinds of literals are then told apart by their first characters.

* `keeps_cooked`, `keeps_raw`: strings with escapes, and raw ones.
* `keeps_read`: every literal, where nothing is joined to it.
* `isLiteral_of_read`: a literal that was read is read again.
-/
namespace Concretize.Text.Reader

variable {α β : Type} {cs mid rest : List Char} {K : List Char → List Char → Prop}

/-- Both texts begin with one character. -/
def Both (c : Char) (mid rest : List Char) : Prop := mid.head? = some c ∧ rest.head? = some c

/-- A reader takes at least one character, the first one of a certain kind. -/
def Starts (p : Char → Prop) (r : Reader α) : Prop :=
  ∀ cs a mid, r.run cs = some (a, mid) →
    ∃ c more, cs = c :: more ∧ p c ∧ mid.length ≤ more.length

section Starts
variable {p q : Char → Prop} {r : Reader α}

theorem Starts.shorter (h : Starts p r) {a : α} (taken : r.run cs = some (a, mid)) :
    mid.length < cs.length := by
  obtain ⟨c, more, rfl, -, shorter⟩ := h cs a mid taken
  exact Nat.lt_succ_of_le shorter

theorem Starts.front (h : Starts p r) {text : List Char} {a : α}
    (taken : r.run (text ++ mid) = some (a, mid)) : ∃ c more, text = c :: more ∧ p c := by
  obtain ⟨c, more, split, first, shorter⟩ := h _ a mid taken
  cases text with
  | nil =>
    have length := congrArg List.length split
    simp only [List.nil_append, List.length_cons] at length
    omega
  | cons d text =>
    obtain rfl : d = c := (List.cons.inj split).1
    exact ⟨d, text, rfl, first⟩

theorem Starts.refused (h : Starts p r) {c : Char} (other : ¬ p c) : r.run (c :: cs) = none := by
  cases taken : r.run (c :: cs) with
  | none => rfl
  | some result =>
    obtain ⟨d, more, same, first, -⟩ := h _ result.1 result.2 taken
    cases same
    exact absurd first other

theorem Starts.mono (h : Starts p r) (weaker : ∀ c, p c → q c) : Starts q r := by
  intro cs a mid taken
  obtain ⟨c, more, split, first, shorter⟩ := h cs a mid taken
  exact ⟨c, more, split, weaker c first, shorter⟩

theorem Starts.bind {f : α → Reader β} {L : List Char → List Char → Prop} (h : Starts p r)
    (next : ∀ a, Keeps L (f a)) : Starts p (r >>= f) := by
  intro cs b mid taken
  obtain ⟨a, behind, first, second⟩ := run_bind_eq_some.1 taken
  obtain ⟨text, rfl, -⟩ := next a behind b mid second
  obtain ⟨c, more, split, kind, shorter⟩ := h cs a _ first
  rw [List.length_append] at shorter
  exact ⟨c, more, split, kind, by omega⟩

theorem Starts.orElse {y : Reader α} (hx : Starts p r) (hy : Starts p y) : Starts p (r <|> y) := by
  intro cs a mid taken
  rcases of_run_orElse taken with first | second
  · exact hx cs a mid first
  · exact hy cs a mid second

/-- Readers whose first characters differ. -/
theorem Keeps.orElse_of_starts {y : Reader α} (hr : Keeps K r) (hy : Keeps K y) (hp : Starts p r)
    (hq : Starts q y) (apart : ∀ c, q c → ¬ p c) :
    Keeps K (r <|> y) ∧ Starts (fun c => p c ∨ q c) (r <|> y) := by
  refine ⟨hr.orElse hy fun text mid rest a _ taken _ => ?_, ?_⟩
  · obtain ⟨c, more, rfl, kind⟩ := hq.front taken
    exact hp.refused (apart c kind)
  · exact (hp.mono fun _ => .inl).orElse (hq.mono fun _ => .inr)

end Starts

theorem starts_next : Starts (fun _ => True) next := by
  intro cs c mid taken
  cases cs with
  | nil => cases taken
  | cons d cs =>
    cases taken
    exact ⟨c, mid, rfl, trivial, le_rfl⟩

theorem starts_one (p : Char → Bool) : Starts (p ·) (one p) := by
  intro cs c mid taken
  exact ⟨c, mid, eq_cons_of_one taken, of_run_one taken, le_rfl⟩

theorem starts_char (c : Char) : Starts (· = c) (char c) := by
  intro cs a mid taken
  exact ⟨c, mid, eq_cons_of_char taken, rfl, le_rfl⟩

theorem starts_chars (c : Char) (front : List Char) : Starts (· = c) (chars (c :: front)) := by
  intro cs a mid taken
  refine ⟨c, front ++ mid, eq_append_of_chars taken, rfl, ?_⟩
  rw [List.length_append]
  exact Nat.le_add_left _ _

theorem run_orElse_eq_none_iff {x y : Reader α} :
    (x <|> y).run cs = none ↔ x.run cs = none ∧ y.run cs = none := by
  rw [run_orElse]
  cases x.run cs <;> simp

theorem run_map_eq_none_iff {r : Reader α} {f : α → β} :
    (do return f (← r) : Reader β).run cs = none ↔ r.run cs = none := by
  rw [StateT.run_bind]
  cases r.run cs <;> simp

theorem one_eq_none_iff {p : Char → Bool} :
    (one p).run cs = none ↔ ∀ c ∈ cs.head?, p c = false := by
  cases cs with
  | nil => exact iff_of_true rfl fun c hc => by cases hc
  | cons c cs => simp [run_one]

theorem keeps_next_bind {f : Char → Reader β} {L : List Char → List Char → Prop}
    (h : ∀ c, Keeps L (f c)) : Keeps L (next >>= f) ∧ Starts (fun _ => True) (next >>= f) :=
  ⟨keeps_next.any_bind h, starts_next.bind h⟩

theorem later_later (h : Later (Later K) mid rest) : Later K mid rest := by
  obtain ⟨front, mid, rest, rfl, rfl, change⟩ := h
  exact later_append change front

theorem repeatedUpTo_of_refused {item : Reader (List α)} (h : item.run cs = none) (n : Nat) :
    (repeatedUpTo item n).run cs = some ([], cs) := by
  cases n with
  | zero => rfl
  | succ n =>
    rw [repeatedUpTo, run_orElse, StateT.run_bind, h]
    rfl

section Repeated
variable {item : Reader (List α)} {p : Char → Prop} (kept : Keeps (Later K) item)
  (starts : Starts p item)
  (refused : ∀ mid rest, K mid rest → item.run mid = none → item.run rest = none)
include kept starts refused

theorem keeps_repeatedUpTo {n : Nat} {v : List α} (large : cs.length ≤ n)
    (h : (repeatedUpTo item n).run cs = some (v, mid)) :
    ∃ text, cs = text ++ mid ∧ ∀ rest m, K mid rest → (text ++ rest).length ≤ m →
      (repeatedUpTo item m).run (text ++ rest) = some (v, rest) := by
  induction n generalizing cs v with
  | zero =>
    obtain ⟨rfl, rfl⟩ := run_pure_eq_some.1 h
    refine ⟨[], rfl, fun rest m change _ => repeatedUpTo_of_refused ?_ m⟩
    refine refused cs rest change ?_
    cases taken : item.run cs with
    | none => rfl
    | some r => exact absurd (starts.shorter taken) (by omega)
  | succ n ih =>
    cases taken : item.run cs with
    | none =>
      rw [repeatedUpTo_of_refused taken] at h
      cases h
      refine ⟨[], rfl, fun rest m change _ => ?_⟩
      exact repeatedUpTo_of_refused (refused _ rest change taken) m
    | some r =>
      obtain ⟨a, behind⟩ := r
      have shorter := starts.shorter taken
      rw [Code.Lexing.repeatedUpTo_succ taken, Option.map_eq_some_iff] at h
      obtain ⟨⟨others, mid⟩, more, same⟩ := h
      cases same
      obtain ⟨front, rfl, again⟩ := kept cs a behind taken
      obtain ⟨text, rfl, again'⟩ := ih (by omega) more
      refine ⟨front ++ text, (List.append_assoc ..).symm, fun rest m change enough => ?_⟩
      have filled : 0 < front.length := by simpa using shorter
      simp only [List.length_append] at enough
      obtain ⟨m, rfl⟩ := Nat.exists_eq_add_of_lt (show 0 < m by omega)
      rw [List.append_assoc, Nat.zero_add,
        Code.Lexing.repeatedUpTo_succ (again _ (later_of change text)),
        again' rest m change (by simp only [List.length_append]; omega)]
      rfl

theorem keeps_repeated : Keeps K (repeated item) := by
  intro cs v mid taken
  obtain ⟨text, split, again⟩ := keeps_repeatedUpTo kept starts refused le_rfl taken
  exact ⟨text, split, fun rest change => again rest _ change le_rfl⟩

end Repeated

/-- What follows a reader up to a character may be changed behind the character. -/
theorem Keeps.closing {r : Reader α} {c : Char} {f : α → Reader β}
    {L : List Char → List Char → Prop} (h : Keeps (Both c) r) (next : ∀ a, Keeps L (f a)) :
    Keeps L (r >>= fun a => char c >>= fun _ => f a) := by
  intro cs b mid taken
  obtain ⟨a, behind, first, second⟩ := run_bind_eq_some.1 taken
  obtain ⟨_, behind', closed, last⟩ := run_bind_eq_some.1 second
  obtain rfl := eq_cons_of_char closed
  obtain ⟨front, rfl, again⟩ := h cs a _ first
  obtain ⟨text, rfl, again'⟩ := next a behind' b mid last
  refine ⟨front ++ c :: text, by simp, fun rest change => ?_⟩
  refine run_bind_eq_some.2 ⟨a, c :: (text ++ rest), ?_, ?_⟩
  · rw [List.append_assoc]
    exact again _ ⟨rfl, rfl⟩
  · exact run_bind_eq_some.2 ⟨(), _, by rw [run_char, if_pos rfl], again' rest change⟩

end Concretize.Text.Reader

namespace Concretize.Code.Lexing

open Text Text.Reader Literal

variable {cs mid rest text : List Char} {f : Family}

theorem keeps_bracedHex : Keeps Any bracedHex := by
  refine Keeps.any_bind (keeps_char _) fun _ => Keeps.any_bind (keeps_one _) fun first => ?_
  have digits : Keeps (Later (Both '\x7d')) (many fun c => c = '_' || isDigitOf 16 c) := by
    refine keeps_many fun _ rest both c hc => ?_
    cases both.2.symm.trans hc
    rfl
  exact Keeps.closing (digits.mono fun _ _ both => later_of both []) fun _ =>
    Keeps.any_bind (keeps_check _) fun _ => keeps_pure _

theorem keeps_escape : Keeps Any (escape f) ∧ Starts (fun _ => True) (escape f) := by
  refine keeps_next_bind fun c => ?_
  split
  · exact Keeps.any_bind (keeps_count _ 2) fun _ =>
      Keeps.any_bind (keeps_check _) fun _ => keeps_pure _
  · refine Keeps.any_bind keeps_bracedHex fun value => Keeps.any_bind (keeps_check _) fun _ => ?_
    split
    · exact keeps_pure _
    · exact keeps_failure
  · exact Keeps.any_bind (keeps_check _) fun _ => keeps_pure _

/-! ## Strings with escapes -/

theorem keeps_lineEnd : Keeps (Later (Both '"')) lineEnd := by
  have feed : Keeps (Later (Both '"')) (accept ['\r']) := by
    refine keeps_accept fun _ rest both found => ?_
    cases both.2.symm.trans found
  exact feed.later_bind fun _ => (keeps_char _).later_bind fun _ => keeps_pure _

theorem run_lineEnd : lineEnd.run cs =
    if ['\n'].isPrefixOf cs then some (['\n'], cs.drop 1)
    else if ['\r', '\n'].isPrefixOf cs then some (['\n'], cs.drop 2) else none := by
  have feed {c : Char} {cs : List Char} : (char '\n').run (c :: cs) =
      if c = '\n' then some ((), cs) else none := run_char '\n' c
  cases cs with
  | nil => rfl
  | cons c cs =>
    by_cases returned : c = '\r'
    · subst returned
      cases cs with
      | nil => rfl
      | cons d cs =>
        by_cases same : d = '\n'
        · subst same
          rfl
        · simp [lineEnd, run_accept_char, feed, same, Ne.symm same]
    · by_cases same : c = '\n'
      · subst same
        rfl
      · simp [lineEnd, run_accept_char, feed, same, returned, Ne.symm same, Ne.symm returned]

theorem starts_lineEnd : Starts (fun c => c = '\n' ∨ c = '\r') lineEnd := by
  intro cs v mid taken
  rw [run_lineEnd] at taken
  split at taken
  · next feed =>
    obtain ⟨more, rfl⟩ := List.isPrefixOf_iff_prefix.1 feed
    cases taken
    exact ⟨'\n', more, rfl, .inl rfl, le_rfl⟩
  split at taken
  · next feed =>
    obtain ⟨more, rfl⟩ := List.isPrefixOf_iff_prefix.1 feed
    cases taken
    exact ⟨'\r', '\n' :: more, rfl, .inr rfl, Nat.le_succ _⟩
  · cases taken

/-- A text that does not hold a character comes from in front of it. -/
theorem prefix_of_both {c : Char} {front mark : List Char} (other : c ∉ mark)
    (both : Both c mid rest) (h : mark <+: front ++ rest) : mark <+: front ++ mid := by
  have begins {cs : List Char} (h : cs.head? = some c) : front ++ [c] <+: front ++ cs := by
    obtain ⟨more, rfl⟩ : ∃ more, cs = c :: more := List.head?_eq_some_iff.1 h
    exact (List.prefix_append_right_inj front).2 (List.prefix_append [c] more)
  rcases List.prefix_or_prefix_of_prefix h (begins both.2) with within | beyond
  · exact within.trans (begins both.1)
  · exact absurd (beyond.subset (by simp)) other

theorem lineEnd_refused (change : Later (Both '"') mid rest) (h : lineEnd.run mid = none) :
    lineEnd.run rest = none := by
  obtain ⟨front, mid, rest, rfl, rfl, both⟩ := change
  rw [run_lineEnd] at h ⊢
  split at h
  · cases h
  split at h
  · cases h
  next feed returned =>
    rw [List.isPrefixOf_iff_prefix] at feed returned
    rw [if_neg, if_neg]
    · exact fun found =>
        returned (prefix_of_both (by decide) both (List.isPrefixOf_iff_prefix.1 found))
    · exact fun found =>
        feed (prefix_of_both (by decide) both (List.isPrefixOf_iff_prefix.1 found))

/-- The blanks that go on with the end of a line. -/
def margin (f : Family) : Reader (List Char) :=
  lineEnd <|> do return [← one fun c => c ≠ '\r' && isSpace c && f.plain c]

theorem keeps_margin : Keeps (Later (Both '"')) (margin f) := by
  refine keeps_lineEnd.orElse ((keeps_one _).map _) fun text mid rest v refused _ change => ?_
  exact lineEnd_refused (later_append change text) refused

theorem starts_margin : Starts (fun _ => True) (margin f) :=
  (starts_lineEnd.mono fun _ _ => trivial).orElse
    (((starts_one _).mono fun _ _ => trivial).bind fun _ => keeps_pure (K := Any) _)

theorem margin_refused (mid rest : List Char) (change : Later (Both '"') mid rest)
    (h : (margin f).run mid = none) : (margin f).run rest = none := by
  rw [margin, run_orElse_eq_none_iff, run_map_eq_none_iff, one_eq_none_iff] at h ⊢
  refine ⟨lineEnd_refused change h.1, ?_⟩
  rcases later_head change with same | both
  · rw [same]
    exact h.2
  · rw [both.2]
    rintro c ⟨⟩
    rfl

theorem keeps_margins : Keeps (Later (Both '"')) (repeated (margin f)) :=
  keeps_repeated (keeps_margin.mono fun _ _ => later_later) starts_margin margin_refused

theorem keeps_continued : Keeps (Later (Both '"')) (continued f) :=
  Keeps.any_bind (keeps_char _) fun _ => keeps_lineEnd.later_bind fun _ =>
    keeps_margins.later_bind fun _ => keeps_pure _

theorem escape_front {c : Char} (ends : '\n' ∉ f.letters ∧ '\r' ∉ f.letters)
    (h : (escape f).run cs = some (c, mid)) :
    ∃ d more, cs = d :: more ∧ mid.length ≤ more.length ∧ d ≠ '\n' ∧ d ≠ '\r' := by
  have shorter := keeps_escape.2.shorter h
  obtain ⟨d, more, first, second⟩ := run_bind_eq_some.1 h
  cases cs with
  | nil => cases first
  | cons d' cs =>
    cases first
    refine ⟨d, more, rfl, Nat.le_of_lt_succ shorter, ?_, ?_⟩
    · rintro rfl
      simp [run_check, ends.1] at second
    · rintro rfl
      simp [run_check, ends.2] at second

theorem starts_continued : Starts (· = '\\') (continued f) :=
  (starts_char _).bind fun _ => keeps_lineEnd.later_bind fun _ =>
    keeps_margins.later_bind fun _ => keeps_pure _

/-- Only the end of a line is continued. -/
theorem continued_of_not_lineEnd (h : lineEnd.run cs = none) :
    (continued f).run ('\\' :: cs) = none := by
  rw [continued, StateT.run_bind, run_char, if_pos rfl, Option.bind_eq_bind, Option.bind_some,
    StateT.run_bind, h]
  rfl

theorem keeps_item (ends : '\n' ∉ f.letters ∧ '\r' ∉ f.letters) :
    Keeps (Later (Both '"')) (item f) := by
  have escaped : Keeps (Later (Both '"')) (do char '\\'; return [← escape f]) :=
    Keeps.any_bind (keeps_char _) fun _ => (keeps_escape.1.of_any).map _
  let p (c : Char) : Bool := c ≠ '"' && c ≠ '\\' && c ≠ '\r' && f.plain c
  have plain : Keeps (Later (Both '"')) (do return [← one p]) := (keeps_one _).map _
  have plain_front {text mid : List Char} {v : List Char}
      (taken : (do return [← one p] : Reader (List Char)).run (text ++ mid) = some (v, mid)) :
      ∃ c, text = [c] ∧ c ≠ '\\' := by
    obtain ⟨c, behind, first, same⟩ := run_bind_eq_some.1 taken
    obtain ⟨-, rfl⟩ := run_pure_eq_some.1 same
    refine ⟨c, List.append_cancel_right (eq_cons_of_one first : _ = [c] ++ behind), ?_⟩
    rintro rfl
    cases of_run_one first
  refine keeps_lineEnd.orElse ?_ fun text mid rest _ refused _ change =>
    lineEnd_refused (later_append change text) refused
  refine keeps_continued.orElse ?_ ?_
  · refine escaped.orElse plain fun text mid rest v _ taken _ => ?_
    obtain ⟨c, rfl, other⟩ := plain_front taken
    rw [StateT.run_bind, List.singleton_append, run_char, if_neg other]
    rfl
  · intro text mid rest v _ taken _
    rcases of_run_orElse taken with taken | taken
    · obtain ⟨_, behind, first, second⟩ := run_bind_eq_some.1 taken
      obtain ⟨c, behind', escaped, same⟩ := run_bind_eq_some.1 second
      obtain ⟨-, rfl⟩ := run_pure_eq_some.1 same
      obtain ⟨d, more, rfl, shorter, feed, returned⟩ := escape_front ends escaped
      have split := eq_cons_of_char first
      obtain ⟨text, rfl⟩ : ∃ text', text = '\\' :: d :: text' := by
        have length := congrArg List.length split
        simp only [List.length_append, List.length_cons] at length
        match text with
        | [] => simp only [List.length_nil] at length; omega
        | [_] => simp only [List.length_singleton] at length; omega
        | c :: c' :: text =>
          simp only [List.cons_append, List.cons.injEq] at split
          exact ⟨text, by rw [split.1, split.2.1]⟩
      exact continued_of_not_lineEnd (starts_lineEnd.refused (not_or.2 ⟨feed, returned⟩))
    · obtain ⟨c, rfl, other⟩ := plain_front taken
      exact starts_continued.refused other

theorem starts_item : Starts (· ≠ '"') (item f) := by
  refine (starts_lineEnd.mono ?_).orElse ((starts_continued.mono ?_).orElse
    (Starts.orElse (Starts.mono (p := (· = '\\')) ?_ ?_) ?_))
  · rintro c (rfl | rfl) <;> decide
  · rintro c rfl
    decide
  · exact (starts_char _).bind fun _ => keeps_escape.1.map _
  · rintro c rfl
    decide
  · refine Starts.bind ((starts_one _).mono fun c plain => ?_) fun _ => keeps_pure (K := Any) _
    rintro rfl
    cases plain

theorem keeps_cooked (ends : '\n' ∉ f.letters ∧ '\r' ∉ f.letters) :
    Keeps Any (cooked f) ∧ Starts (· = '"') (cooked f) := by
  have items : Keeps (Both '"') (repeated (item f)) := by
    refine keeps_repeated (keeps_item ends) starts_item fun _ rest both _ => ?_
    obtain ⟨more, rfl⟩ := List.head?_eq_some_iff.1 both.2
    exact starts_item.refused (not_not_intro rfl)
  have behind : Keeps Any (do let value ← repeated (item f); char '"'; return value) :=
    items.closing fun _ => keeps_pure _
  exact ⟨Keeps.any_bind (keeps_char _) fun _ => behind, (starts_char _).bind fun _ => behind⟩

/-! ## Strings between hashes -/

/-- Both texts begin with one text. -/
def BothBegin (front mid rest : List Char) : Prop := front <+: mid ∧ front <+: rest

/-- What closes a string comes where it came before, or behind what it closed there. -/
theorem prefix_of_bothBegin {front mark : List Char} (both : BothBegin mark mid rest)
    (h : mark <+: front ++ rest) : mark <+: front ++ mid := by
  have closing {cs : List Char} (h : mark <+: cs) : front ++ mark <+: front ++ cs :=
    (List.prefix_append_right_inj front).2 h
  have within : mark <+: front ++ mark := by
    refine List.prefix_of_prefix_length_le h (closing both.2) ?_
    rw [List.length_append]
    exact Nat.le_add_left _ _
  exact within.trans (closing both.1)

/-- One character of a raw string, or the end of a line. -/
def rawCharacter (f : Family) : Reader (List Char) := do
  let c ← next
  if c = '\r' then
    char '\n'
    return [c, '\n']
  else
    check (f.plain c)
    return [c]

theorem keeps_rawCharacter :
    Keeps Any (rawCharacter f) ∧ Starts (fun _ => True) (rawCharacter f) := by
  refine keeps_next_bind fun c => ?_
  split
  · exact Keeps.any_bind (keeps_char _) fun _ => keeps_pure _
  · exact Keeps.any_bind (keeps_check _) fun _ => keeps_pure _

/-- A character of a raw string, unless the string is closed. -/
def rawItem (f : Family) (hashes : List Char) : Reader (List Char) := do
  check (!(← comes ('"' :: hashes)))
  rawCharacter f

variable {hashes : List Char}

theorem run_rawItem : (rawItem f hashes).run cs =
    if ¬ '"' :: hashes <+: cs then (rawCharacter f).run cs else none := by
  rw [rawItem, StateT.run_bind, run_comes, Option.bind_eq_bind, Option.bind_some, StateT.run_bind,
    run_check]
  by_cases closed : '"' :: hashes <+: cs
  · simp [closed, List.isPrefixOf_iff_prefix.2 closed]
  · simp [closed, mt List.isPrefixOf_iff_prefix.1 closed]

theorem keeps_rawItem : Keeps (Later (BothBegin ('"' :: hashes))) (rawItem f hashes) := by
  refine keeps_rawCharacter.1.of_any.guarded (fun _ => run_rawItem) fun text mid rest change => ?_
  obtain ⟨front, mid, rest, rfl, rfl, both⟩ := change
  simp only [← List.append_assoc]
  exact mt (prefix_of_bothBegin both)

theorem starts_rawItem : Starts (fun _ => True) (rawItem f hashes) := by
  intro cs v mid taken
  rw [run_rawItem] at taken
  split at taken
  · exact keeps_rawCharacter.2 cs v mid taken
  · cases taken

theorem keeps_rawItems :
    Keeps (BothBegin ('"' :: hashes)) (repeated (rawItem f hashes)) := by
  refine keeps_repeated keeps_rawItem starts_rawItem fun _ rest both _ => ?_
  rw [run_rawItem, if_neg (not_not_intro both.2)]

theorem keeps_raw : Keeps Any (raw f) := by
  intro cs value mid taken
  simp only [raw, run_bind_eq_some] at taken
  obtain ⟨hashes, mid₁, counted, _, mid₂, few, _, mid₃, quote, v, mid₄, inner, _, mid₅, closed,
    last⟩ := taken
  obtain ⟨rfl, rfl⟩ := run_pure_eq_some.1 last
  obtain ⟨rfl, all, -⟩ := of_run_many counted
  rw [run_check] at few
  split at few <;> cases few
  next few =>
    obtain rfl := eq_cons_of_char quote
    obtain ⟨body, rfl, again⟩ := keeps_rawItems mid₃ v mid₄ inner
    obtain rfl := eq_append_of_chars closed
    refine ⟨hashes ++ '"' :: (body ++ '"' :: hashes), by simp, fun rest _ => ?_⟩
    have counted' : (many (· = '#')).run (hashes ++ '"' :: (body ++ '"' :: (hashes ++ rest))) =
        some (hashes, '"' :: (body ++ '"' :: (hashes ++ rest))) := by
      refine run_many_append all ?_
      rintro c ⟨⟩
      rfl
    have inner' := again ('"' :: hashes ++ rest) ⟨List.prefix_append _ _, List.prefix_append _ _⟩
    have closed' : (chars ('"' :: hashes)).run ('"' :: hashes ++ rest) = some ((), rest) := by
      rw [run_chars, if_pos (List.isPrefixOf_iff_prefix.2 (List.prefix_append _ _)), List.drop_left]
    simp only [raw, run_bind_eq_some, List.append_assoc, List.cons_append]
    exact ⟨hashes, _, counted', (), _, by rw [run_check, if_pos few], (), _,
      by rw [run_char, if_pos rfl]; rfl, v, _, inner', (), rest, closed', rfl⟩

/-! ## Literals -/

section Text
variable (ends : '\n' ∉ f.letters ∧ '\r' ∉ f.letters) {mark : List Char}
include ends

theorem keeps_body : Keeps Any (cooked f <|> (do char 'r'; raw f)) ∧
    Starts (fun c => c = '"' ∨ c = 'r') (cooked f <|> (do char 'r'; raw f)) := by
  obtain ⟨kept, starts⟩ := keeps_cooked ends
  refine kept.orElse_of_starts (Keeps.any_bind (keeps_char _) fun _ => keeps_raw) starts
    ((starts_char 'r').bind fun _ => keeps_raw) ?_
  rintro c rfl
  decide

theorem keeps_string : Keeps Ended (string mark f) :=
  Keeps.any_bind (keeps_chars mark) fun _ =>
    Keeps.any_bind (keeps_body ends).1 fun _ => keeps_suffix.map _

theorem starts_string_nil : Starts (fun c => c = '"' ∨ c = 'r') (string [] f) := by
  intro cs v mid taken
  obtain ⟨_, behind, marked, body⟩ := run_bind_eq_some.1 taken
  obtain rfl : cs = behind := eq_append_of_chars marked
  exact ((keeps_body ends).2.bind fun v => keeps_suffix.map fun _ => v) cs v mid body

theorem starts_string_cons {c : Char} : Starts (· = c) (string (c :: mark) f) :=
  (starts_chars c mark).bind fun _ => Keeps.any_bind (keeps_body ends).1 fun _ => keeps_suffix.map _

/-- Behind the mark of its family, a string begins with a quote or the mark of a raw one. -/
theorem string_refused {c : Char} (other : ¬ (c = '"' ∨ c = 'r')) :
    (string mark f).run (mark ++ c :: cs) = none := by
  have marked : (chars mark).run (mark ++ c :: cs) = some ((), c :: cs) := by
    rw [run_chars, if_pos (List.isPrefixOf_iff_prefix.2 (List.prefix_append _ _)), List.drop_left]
  rw [string, StateT.run_bind, marked, Option.bind_eq_bind, Option.bind_some, StateT.run_bind,
    (keeps_body ends).2.refused other]
  rfl

end Text

/-- One character, or an escape. -/
theorem keeps_single {p : Char → Bool} (other : p '\\' = false) :
    Keeps Any ((do char '\\'; escape f) <|> one p) := by
  have escaped : Keeps Any (do char '\\'; escape f) :=
    Keeps.any_bind (keeps_char _) fun _ => keeps_escape.1
  refine escaped.orElse (keeps_one p) fun text mid rest c _ taken _ => ?_
  obtain ⟨d, more, rfl, plain⟩ := (starts_one p).front taken
  refine Starts.refused (p := (· = '\\')) ((starts_char _).bind fun _ => keeps_escape.1) ?_
  rintro rfl
  rw [other] at plain
  cases plain

theorem keeps_character : Keeps Ended character ∧ Starts (· = '\'') character := by
  have behind : Keeps Ended (do
      let _ ← (do char '\\'; escape textFamily) <|> one (· ≠ '\\')
      char '\''
      suffix) :=
    Keeps.any_bind (keeps_single rfl) fun _ => Keeps.any_bind (keeps_char _) fun _ => keeps_suffix
  exact ⟨Keeps.any_bind (keeps_char _) fun _ => behind, (starts_char _).bind fun _ => behind⟩

/-- A byte behind its mark. -/
theorem keeps_byteBehind : Keeps Ended (do
    let _ ← (do char '\\'; escape byteFamily) <|> one fun c => c ≠ '\\' && byteFamily.plain c
    char '\''
    suffix) :=
  Keeps.any_bind (keeps_single rfl) fun _ => Keeps.any_bind (keeps_char _) fun _ => keeps_suffix

theorem keeps_byte : Keeps Ended byte ∧ Starts (· = 'b') byte :=
  ⟨Keeps.any_bind (keeps_chars _) fun _ => keeps_byteBehind,
    (starts_chars _ _).bind fun _ => keeps_byteBehind⟩

theorem byte_front {u : Unit} (h : byte.run (text ++ mid) = some (u, mid)) :
    ∃ more, text = 'b' :: '\'' :: more := by
  obtain ⟨_, behind, marked, taken⟩ := run_bind_eq_some.1 h
  obtain ⟨more, rfl, -⟩ := keeps_byteBehind _ _ _ taken
  have whole := eq_append_of_chars marked
  rw [← List.append_assoc] at whole
  exact ⟨more, List.append_cancel_right whole⟩

theorem starts_of_keeps {α : Type} {r : Reader α} {p : Char → Prop} (kept : Keeps Ended r)
    (first : ∀ cs a mid, r.run cs = some (a, mid) → ∃ c ∈ cs.head?, p c) : Starts p r := by
  intro cs a mid taken
  obtain ⟨text, rfl, again⟩ := kept cs a mid taken
  obtain ⟨c, hc, kind⟩ := first _ _ _ (again [] closed_nil)
  cases text with
  | nil => cases hc
  | cons d text =>
    cases hc
    refine ⟨c, text ++ mid, rfl, kind, ?_⟩
    rw [List.length_append]
    exact Nat.le_add_left _ _

theorem starts_float : Starts (isDigit ·) float := by
  refine starts_of_keeps keeps_float fun cs u mid taken => ?_
  obtain ⟨c, more, first, -⟩ := run_bind_eq_some.1 taken
  rw [eq_cons_of_one first]
  exact ⟨c, rfl, of_run_one first⟩

theorem starts_whole : Starts (isDigit ·) whole := by
  refine starts_of_keeps keeps_whole fun cs u mid taken => ?_
  obtain ⟨front, base, cs, rfl, shape, -⟩ := of_run_whole taken
  cases shape with
  | decimal digit plain => exact ⟨_, rfl, digit⟩
  | _ => exact ⟨'0', rfl, by decide⟩

/-- A number, or what stands for a literal that could not be read. The two kinds of numbers have the
first characters in common. -/
theorem keeps_number : Keeps Ended (float <|> whole <|> chars unreadable) ∧
    Starts (fun c => isDigit c ∨ isDigit c ∨ c = '(') (float <|> whole <|> chars unreadable) := by
  have unread : Starts (· = '(') (chars unreadable) := starts_chars _ _
  obtain ⟨kept, starts⟩ := keeps_whole.orElse_of_starts (keeps_chars unreadable) starts_whole unread
    (by rintro c rfl; decide)
  refine ⟨keeps_float.orElse kept fun text mid rest u refused taken closed => ?_,
    (starts_float.mono fun _ => .inl).orElse (starts.mono fun _ => .inr)⟩
  rcases of_run_orElse taken with taken | taken
  · exact float_refused refused taken closed
  · obtain ⟨c, more, rfl, rfl⟩ := unread.front taken
    exact starts_float.refused (by decide)

/-- A string of a family with a mark, whatever its value. -/
theorem keeps_marked {c : Char} (ends : '\n' ∉ f.letters ∧ '\r' ∉ f.letters) :
    Keeps Ended (do let _ ← string [c] f : Reader Unit) ∧
      Starts (· = c) (do let _ ← string [c] f : Reader Unit) :=
  ⟨(keeps_string ends).map fun _ => (),
    (starts_string_cons ends).bind fun _ => keeps_pure (K := Any) ()⟩

/-- The alternatives of a literal are told from each other by their first characters, except that
strings of bytes and single bytes have theirs in common. -/
theorem keeps_read : Keeps Ended (
    (do let _ ← string [] textFamily) <|> (do let _ ← string ['b'] byteFamily) <|>
      (do let _ ← string ['c'] cFamily) <|> byte <|> character <|> float <|> whole <|>
      chars unreadable : Reader Unit) := by
  have texts : '\n' ∉ textFamily.letters ∧ '\r' ∉ textFamily.letters := by decide
  obtain ⟨bytesKept, bytesStart⟩ := keeps_marked (c := 'b') (f := byteFamily) (by decide)
  obtain ⟨foreignKept, foreignStarts⟩ := keeps_marked (c := 'c') (f := cFamily) (by decide)
  obtain ⟨kept₅, starts₅⟩ := keeps_character.1.orElse_of_starts keeps_number.1 keeps_character.2
    keeps_number.2 (by rintro c kind rfl; exact absurd kind (by decide))
  obtain ⟨kept₄, starts₄⟩ := keeps_byte.1.orElse_of_starts kept₅ keeps_byte.2 starts₅
    (by rintro c kind rfl; exact absurd kind (by decide))
  obtain ⟨kept₃, starts₃⟩ := foreignKept.orElse_of_starts kept₄ foreignStarts starts₄
    (by rintro c kind rfl; exact absurd kind (by decide))
  have kept₂ := bytesKept.orElse kept₃ fun text mid rest u _ taken _ => by
    rcases of_run_orElse taken with foreign | taken
    · obtain ⟨c, more, rfl, rfl⟩ := foreignStarts.front foreign
      exact bytesStart.refused (by decide)
    rcases of_run_orElse taken with byte | taken
    · obtain ⟨more, rfl⟩ := byte_front byte
      have refused : (string ['b'] byteFamily).run (['b'] ++ '\'' :: (more ++ rest)) = none :=
        string_refused (by decide) (by decide)
      exact run_map_eq_none_iff.2 refused
    · obtain ⟨c, more, rfl, kind⟩ := starts₅.front taken
      refine bytesStart.refused ?_
      rintro rfl
      exact absurd kind (by decide)
  have starts₂ := (bytesStart.mono fun _ => Or.inl).orElse (starts₃.mono fun _ => Or.inr)
  exact (((keeps_string texts).map fun _ => ()).orElse_of_starts kept₂
    ((starts_string_nil texts).bind fun _ => keeps_pure (K := Any) ()) starts₂
    (by rintro c kind (rfl | rfl) <;> exact absurd kind (by decide))).1

/-- **Literals.** A literal that was read is read as it stands wherever nothing is joined to it. -/
theorem isLiteral_of_read (h : Literal.read.run cs = some (text, mid)) :
    cs = text ++ mid ∧ IsLiteral text := by
  rw [Literal.read, run_taken, Option.map_eq_some_iff] at h
  obtain ⟨⟨u, behind⟩, taken, same⟩ := h
  obtain ⟨text', rfl, again⟩ := keeps_read cs u behind taken
  obtain ⟨rfl, rfl⟩ : text' = text ∧ behind = mid := by simpa using same
  refine ⟨rfl, fun rest closed => ?_⟩
  rw [Literal.read, run_taken, again rest closed]
  simp

end Concretize.Code.Lexing
