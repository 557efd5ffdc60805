import Concretize.Proofs.Spelling

/-!
# Numbers read again

A reader that looks ahead depends on what follows the text it takes. `Keeps` says for which changes
of what follows it takes the same, and is closed under sequence and choice.

* `Keeps.bind`, `Keeps.orElse`: what readers in sequence, and in choice, keep.
* `keeps_float`, `keeps_whole`: numbers, where nothing is joined to them.
* `float_refused`: a whole number does not become one with a point.
-/
namespace Concretize.Text.Reader

variable {α β : Type} {cs mid rest : List Char} {K L : List Char → List Char → Prop}

/-! ## What readers keep -/

/-- A reader takes text from the front, and takes the same if what follows it is changed in one of
certain ways. -/
def Keeps (K : List Char → List Char → Prop) (r : Reader α) : Prop :=
  ∀ cs a mid, r.run cs = some (a, mid) →
    ∃ text, cs = text ++ mid ∧ ∀ rest, K mid rest → r.run (text ++ rest) = some (a, rest)

/-- Any change. -/
def Any (_ _ : List Char) : Prop := True

/-- A change that comes after a common front. -/
def Later (K : List Char → List Char → Prop) (mid rest : List Char) : Prop :=
  ∃ front mid' rest', mid = front ++ mid' ∧ rest = front ++ rest' ∧ K mid' rest'

theorem later_append (h : Later K mid rest) (text : List Char) :
    Later K (text ++ mid) (text ++ rest) := by
  obtain ⟨front, mid, rest, rfl, rfl, h⟩ := h
  exact ⟨text ++ front, mid, rest, by simp, by simp, h⟩

theorem later_of (h : K mid rest) (text : List Char) : Later K (text ++ mid) (text ++ rest) :=
  ⟨text, mid, rest, rfl, rfl, h⟩

theorem Keeps.mono {r : Reader α} (h : Keeps K r) (weaker : ∀ mid rest, L mid rest → K mid rest) :
    Keeps L r := by
  intro cs a mid taken
  obtain ⟨text, split, again⟩ := h cs a mid taken
  exact ⟨text, split, fun rest change => again rest (weaker mid rest change)⟩

theorem Keeps.of_any {r : Reader α} (h : Keeps Any r) : Keeps K r := h.mono fun _ _ _ => trivial

theorem Keeps.bind {r : Reader α} {f : α → Reader β} (h : Keeps K r) (next : ∀ a, Keeps L (f a))
    (earlier : ∀ text mid rest, L mid rest → K (text ++ mid) (text ++ rest)) :
    Keeps L (r >>= f) := by
  intro cs b mid taken
  obtain ⟨a, behind, first, second⟩ := run_bind_eq_some.1 taken
  obtain ⟨front, rfl, again⟩ := h cs a behind first
  obtain ⟨text, rfl, again'⟩ := next a behind b mid second
  refine ⟨front ++ text, (List.append_assoc ..).symm, fun rest change => ?_⟩
  rw [List.append_assoc]
  exact run_bind_eq_some.2 ⟨a, text ++ rest, again _ (earlier text mid rest change),
    again' rest change⟩

theorem Keeps.any_bind {r : Reader α} {f : α → Reader β} (h : Keeps Any r)
    (next : ∀ a, Keeps L (f a)) : Keeps L (r >>= f) :=
  h.bind next fun _ _ _ _ => trivial

theorem Keeps.later_bind {r : Reader α} {f : α → Reader β} (h : Keeps (Later K) r)
    (next : ∀ a, Keeps (Later K) (f a)) : Keeps (Later K) (r >>= f) :=
  h.bind next fun text _ _ change => later_append change text

theorem Keeps.map {r : Reader α} (h : Keeps K r) (f : α → β) :
    Keeps K (do return f (← r)) := by
  intro cs b mid taken
  obtain ⟨a, behind, first, second⟩ := run_bind_eq_some.1 taken
  obtain ⟨rfl, rfl⟩ := run_pure_eq_some.1 second
  obtain ⟨text, split, again⟩ := h cs a behind first
  exact ⟨text, split, fun rest change => run_bind_eq_some.2 ⟨a, rest, again rest change, rfl⟩⟩

/-- The second of two readers keeps what it takes where a change does not let the first one in. -/
theorem Keeps.orElse {x y : Reader α} (hx : Keeps K x) (hy : Keeps K y)
    (refused : ∀ text mid rest a, x.run (text ++ mid) = none → y.run (text ++ mid) = some (a, mid) →
      K mid rest → x.run (text ++ rest) = none) : Keeps K (x <|> y) := by
  intro cs a mid taken
  cases first : x.run cs with
  | some r =>
    rw [run_orElse_of_some first] at taken
    cases taken
    obtain ⟨text, split, again⟩ := hx cs a mid first
    exact ⟨text, split, fun rest change => run_orElse_of_some (again rest change)⟩
  | none =>
    rw [run_orElse_of_none first] at taken
    obtain ⟨text, rfl, again⟩ := hy cs a mid taken
    refine ⟨text, rfl, fun rest change => ?_⟩
    rw [run_orElse_of_none (refused text mid rest a first taken change)]
    exact again rest change

/-- A reader behind a condition on the text. -/
theorem Keeps.guarded {r g : Reader α} {q : List Char → Prop} [DecidablePred q] (h : Keeps K r)
    (guard : ∀ cs, g.run cs = if q cs then r.run cs else none)
    (again : ∀ text mid rest, K mid rest → q (text ++ mid) → q (text ++ rest)) : Keeps K g := by
  intro cs a mid taken
  rw [guard] at taken
  split at taken
  · next allowed =>
    obtain ⟨text, rfl, kept⟩ := h cs a mid taken
    refine ⟨text, rfl, fun rest change => ?_⟩
    rw [guard, if_pos (again text mid rest change allowed)]
    exact kept rest change
  · cases taken

theorem keeps_pure (a : α) : Keeps K (pure a : Reader α) := by
  intro cs b mid taken
  obtain ⟨rfl, rfl⟩ := run_pure_eq_some.1 taken
  exact ⟨[], rfl, fun rest _ => rfl⟩

theorem keeps_failure : Keeps K (failure : Reader α) := nofun

theorem keeps_check (b : Bool) : Keeps K (check b) := by
  cases b
  · exact keeps_failure
  · exact keeps_pure ()

theorem keeps_next : Keeps K next := by
  intro cs c mid taken
  cases cs with
  | nil => cases taken
  | cons d cs =>
    cases taken
    exact ⟨[c], rfl, fun rest _ => rfl⟩

theorem keeps_one (p : Char → Bool) : Keeps K (one p) := by
  refine Keeps.any_bind keeps_next fun c => ?_
  split
  · exact keeps_pure c
  · exact keeps_failure

theorem keeps_char (c : Char) : Keeps K (char c) :=
  Keeps.any_bind (keeps_one _) fun _ => keeps_pure ()

theorem keeps_count (p : Char → Bool) (n : Nat) : Keeps K (count p n) := by
  induction n generalizing K with
  | zero => exact keeps_pure []
  | succ n ih =>
    exact Keeps.any_bind (keeps_one p) fun c => Keeps.any_bind ih fun cs => keeps_pure (c :: cs)

theorem keeps_chars (front : List Char) : Keeps K (chars front) := by
  intro cs a mid taken
  refine ⟨front, eq_append_of_chars taken, fun rest _ => ?_⟩
  rw [run_chars, if_pos (List.isPrefixOf_iff_prefix.2 (List.prefix_append front rest)),
    List.drop_left]

theorem of_run_many {p : Char → Bool} {text : List Char} (h : (many p).run cs = some (text, mid)) :
    cs = text ++ mid ∧ (∀ c ∈ text, p c) ∧ ∀ c ∈ mid.head?, p c = false := by
  rw [run_many, List.span_eq_takeWhile_dropWhile, Option.some_inj, Prod.mk.injEq] at h
  obtain ⟨rfl, rfl⟩ := h
  refine ⟨List.takeWhile_append_dropWhile.symm, fun c hc => List.mem_takeWhile_imp hc, ?_⟩
  intro c hc
  have stopped := List.head?_dropWhile_not p cs
  rw [hc] at stopped
  exact stopped

/-- A change after a common front leaves the first character, or comes at once. -/
theorem later_head (h : Later K mid rest) : rest.head? = mid.head? ∨ K mid rest := by
  obtain ⟨front, mid, rest, rfl, rfl, change⟩ := h
  cases front with
  | nil => exact .inr change
  | cons c front => exact .inl rfl

theorem keeps_many {p : Char → Bool}
    (stop : ∀ mid rest, K mid rest → ∀ c ∈ rest.head?, p c = false) : Keeps (Later K) (many p) := by
  intro cs text mid taken
  obtain ⟨rfl, all, stopped⟩ := of_run_many taken
  refine ⟨text, rfl, fun rest change => Code.Lexing.run_many_append all ?_⟩
  rcases later_head change with same | change
  · rwa [same]
  · exact stop mid rest change

theorem run_accept_char (c : Char) : (accept [c]).run cs =
    some (if cs.head? = some c then (true, cs.tail) else (false, cs)) := by
  rw [run_accept]
  cases cs with
  | nil => rfl
  | cons d cs =>
    by_cases same : c = d
    · simp [same]
    · simp [same, Ne.symm same]

theorem keeps_accept {c : Char} (other : ∀ mid rest, K mid rest → rest.head? ≠ some c) :
    Keeps (Later K) (accept [c]) := by
  intro cs b mid taken
  rw [run_accept_char, Option.some_inj] at taken
  split at taken
  · next found =>
    cases taken
    obtain ⟨more, rfl⟩ : ∃ more, cs = c :: more := by
      cases cs with
      | nil => cases found
      | cons d cs => exact ⟨cs, congrArg (· :: cs) (Option.some.inj found)⟩
    exact ⟨[c], rfl, fun rest _ => by simp [run_accept_char]⟩
  · next refused =>
    cases taken
    refine ⟨[], rfl, fun rest change => ?_⟩
    have refused' : rest.head? ≠ some c := by
      rcases later_head change with same | change
      · rwa [same]
      · exact other cs rest change
    rw [List.nil_append, run_accept_char, if_neg refused']

end Concretize.Text.Reader

namespace Concretize.Code.Lexing

open Text Text.Reader Literal

variable {cs mid rest text : List Char}

/-! ## Numbers -/

/-- What follows is changed to something that is not joined to what stands in front of it. -/
def Ended (_ rest : List Char) : Prop := Closed rest

/-- The suffix of a literal. -/
def IsSuffix (text : List Char) : Prop := text = [] ∨ IsName text

theorem Closed.stops (h : Closed cs) : Stops cs := h.apart.stops

theorem Closed.free {p : Char → Bool} (none : [' ', ')', ']', '\x7d'].any p = false)
    (h : Closed cs) : ∀ c ∈ cs.head?, p c = false := by
  intro c hc
  have known : c ∈ [' ', ')', ']', '\x7d'] := by
    rcases h c hc with rfl | rfl | rfl | rfl <;> simp
  exact Bool.eq_false_iff.2 (List.any_eq_false.1 none c known)

theorem run_suffix (h : IsSuffix text) (stops : Stops rest) :
    suffix.run (text ++ rest) = some ((), rest) := by
  rcases h with rfl | ⟨c, more, rfl, start, continues⟩
  · cases rest with
    | nil => rfl
    | cons c rest =>
      have plain : isNameStart c = false := by
        rw [← Bool.not_eq_true]
        intro start
        exact absurd (isNameContinue_of_isNameStart start) (by rw [stops c rfl]; decide)
      simp [suffix, run_peek, plain]
  · have all : ∀ d ∈ c :: more, isNameContinue d :=
      List.forall_mem_cons.2 ⟨isNameContinue_of_isNameStart start, continues⟩
    have taken := run_many_append all stops
    simp only [List.cons_append] at taken
    simp [suffix, run_peek, start, taken]

theorem of_run_suffix {u : Unit} (h : suffix.run cs = some (u, mid)) :
    ∃ text, cs = text ++ mid ∧ IsSuffix text := by
  simp only [suffix, run_bind_eq_some, run_peek, Option.some_inj, Prod.mk.injEq] at h
  obtain ⟨_, _, ⟨rfl, rfl⟩, h⟩ := h
  split at h
  · next c found =>
    split at h
    · next start =>
      obtain ⟨text, mid', taken, last⟩ := run_bind_eq_some.1 h
      obtain ⟨-, rfl⟩ := run_pure_eq_some.1 last
      obtain ⟨rfl, all, stopped⟩ := of_run_many taken
      refine ⟨text, rfl, ?_⟩
      cases text with
      | nil => exact .inl rfl
      | cons d more =>
        cases found
        exact .inr ⟨c, more, rfl, start, fun e he => all e (List.mem_cons_of_mem c he)⟩
    · obtain ⟨-, rfl⟩ := run_pure_eq_some.1 h
      exact ⟨[], rfl, .inl rfl⟩
  · obtain ⟨-, rfl⟩ := run_pure_eq_some.1 h
    exact ⟨[], rfl, .inl rfl⟩

theorem keeps_suffix : Keeps Ended suffix := by
  intro cs u mid taken
  obtain ⟨text, rfl, h⟩ := of_run_suffix taken
  exact ⟨text, rfl, fun rest closed => run_suffix h closed.stops⟩

theorem run_numberEnd (h : IsSuffix text) (stops : Stops rest) :
    numberEnd.run (text ++ rest) = some ((), rest) := by
  simp only [numberEnd, StateT.run_bind, run_suffix h stops, run_peek, Option.bind_eq_bind,
    Option.bind_some]
  cases rest with
  | nil => rfl
  | cons c rest => simp [run_check, stops c rfl]

theorem of_run_numberEnd {u : Unit} (h : numberEnd.run cs = some (u, mid)) :
    ∃ text, cs = text ++ mid ∧ IsSuffix text ∧ Stops mid := by
  simp only [numberEnd, run_bind_eq_some, run_peek, Option.some_inj, Prod.mk.injEq] at h
  obtain ⟨_, mid', taken, _, _, ⟨rfl, rfl⟩, last⟩ := h
  obtain ⟨text, rfl, isSuffix⟩ := of_run_suffix taken
  cases mid' with
  | nil =>
    obtain ⟨-, rfl⟩ := run_pure_eq_some.1 last
    exact ⟨text, rfl, isSuffix, nofun⟩
  | cons c mid' =>
    simp only [List.head?_cons, run_check] at last
    split at last
    · next stops =>
      cases last
      refine ⟨text, rfl, isSuffix, ?_⟩
      rintro d ⟨⟩
      simpa using stops
    · cases last

theorem keeps_numberEnd : Keeps Ended numberEnd := by
  intro cs u mid taken
  obtain ⟨text, rfl, h, -⟩ := of_run_numberEnd taken
  exact ⟨text, rfl, fun rest closed => run_numberEnd h closed.stops⟩

/-- The code points of digits and letters. -/
def plainCodes : List Nat := List.range' 0x30 10 ++ List.range' 0x41 26 ++ List.range' 0x61 26

theorem isNameContinue_of_mem_plainCodes {c : Char} (h : c.toNat ∈ plainCodes) :
    isNameContinue c := by
  have all : ∀ n ∈ plainCodes, (nameStartRanges.hasCode n || nameExtraRanges.hasCode n) = true := by
    decide +kernel
  exact all _ h

theorem isNameContinue_of_isDigitOf {base : Nat} {c : Char} (h : isDigitOf base c) :
    isNameContinue c := by
  have plain : ('0' ≤ c ∧ c ≤ '9') ∨ ('a' ≤ c ∧ c ≤ 'z') ∨ ('A' ≤ c ∧ c ≤ 'Z') := by
    by_contra other
    simp only [not_or] at other
    simp [isDigitOf, digitValue?, other] at h
  refine isNameContinue_of_mem_plainCodes ?_
  simp only [plainCodes, List.mem_append, List.mem_range'_1]
  rcases plain with ⟨low, high⟩ | ⟨low, high⟩ | ⟨low, high⟩
  · exact .inl (.inl ⟨low, Nat.lt_succ_of_le high⟩)
  · exact .inr ⟨low, Nat.lt_succ_of_le high⟩
  · exact .inl (.inr ⟨low, Nat.lt_succ_of_le high⟩)

theorem isNameContinue_of_isDigit {c : Char} (h : isDigit c) : isNameContinue c := by
  rw [isDigit, Bool.and_eq_true, decide_eq_true_eq, decide_eq_true_eq] at h
  refine isNameContinue_of_mem_plainCodes ?_
  simp only [plainCodes, List.mem_append, List.mem_range'_1]
  exact .inl (.inl ⟨h.1, Nat.lt_succ_of_le h.2⟩)

theorem isNameContinue_of_isDigitOrGap {c : Char} (h : isDigitOrGap c) : isNameContinue c := by
  rw [isDigitOrGap, Bool.or_eq_true, decide_eq_true_eq] at h
  rcases h with rfl | digit
  · decide
  · exact isNameContinue_of_isDigit digit

/-- Taking a run from a text that nothing behind it goes on with. -/
theorem run_many_within {p : Char → Bool} (stop : ∀ c ∈ rest.head?, p c = false) :
    (many p).run (text ++ rest) = some (text.takeWhile p, text.dropWhile p ++ rest) := by
  rw [run_many, List.span_eq_takeWhile_dropWhile]
  induction text with
  | nil => simp [dropWhile_eq stop, takeWhile_eq stop]
  | cons c text ih =>
    simp only [List.cons_append, List.takeWhile_cons, List.dropWhile_cons]
    split
    · simp only [Option.some.injEq, Prod.mk.injEq] at ih ⊢
      exact ⟨congrArg _ ih.1, ih.2⟩
    · rfl

theorem Stops.digits (h : Stops rest) : ∀ c ∈ rest.head?, isDigitOrGap c = false := by
  intro c hc
  rw [← Bool.not_eq_true]
  intro digit
  have other := h c hc
  rw [isNameContinue_of_isDigitOrGap digit] at other
  cases other

theorem keeps_digits : Keeps (Later Ended) (many isDigitOrGap) :=
  keeps_many fun _ _ closed => closed.stops.digits

theorem keeps_exponent : Keeps (Later Ended) exponent := by
  refine Keeps.any_bind (keeps_one _) fun _ => keeps_digits.later_bind fun digits => ?_
  split
  · exact keeps_pure ()
  · exact Keeps.any_bind (keeps_one _) fun _ => keeps_digits.later_bind fun _ => keeps_check _

/-- Among characters of names, an exponent has no sign, so that it does not reach what follows. -/
theorem exponent_within {u : Unit} {behind : List Char} (names : ∀ c ∈ text, isNameContinue c)
    (closed : Closed rest) (h : exponent.run (text ++ rest) = some (u, behind)) :
    ∃ more, behind = more ++ rest ∧ (∀ c ∈ more, isNameContinue c) ∧
      ∀ mid, Stops mid → exponent.run (text ++ mid) = some ((), more ++ mid) := by
  simp only [exponent, run_bind_eq_some] at h
  obtain ⟨e, mid, first, digits, mid', taken, h⟩ := h
  have letter := of_run_one first
  have split := eq_cons_of_one first
  cases text with
  | nil =>
    rw [List.nil_append] at split
    rw [split] at closed
    rcases closed e rfl with rfl | rfl | rfl | rfl <;> cases letter
  | cons c text =>
    obtain ⟨rfl, rfl⟩ : c = e ∧ text ++ rest = mid := by simpa using split
    rw [run_many_within closed.stops.digits, Option.some_inj, Prod.mk.injEq] at taken
    obtain ⟨rfl, rfl⟩ := taken
    have inner : ∀ d ∈ text.dropWhile isDigitOrGap, isNameContinue d := fun d hd =>
      names d (List.mem_cons_of_mem c ((List.dropWhile_suffix _).subset hd))
    split at h
    · next scaled =>
      obtain ⟨-, rfl⟩ := run_pure_eq_some.1 h
      refine ⟨_, rfl, inner, fun mid stops => ?_⟩
      simp only [exponent, run_bind_eq_some]
      refine ⟨c, text ++ mid, by rw [List.cons_append, run_one, if_pos letter], _, _,
        run_many_within stops.digits, ?_⟩
      rw [if_pos scaled]
      rfl
    · obtain ⟨sign, mid, signed, -⟩ := run_bind_eq_some.1 h
      have known := of_run_one signed
      have split := eq_cons_of_one signed
      exfalso
      cases left : text.dropWhile isDigitOrGap with
      | nil =>
        rw [left, List.nil_append] at split
        rw [split] at closed
        rcases closed sign rfl with rfl | rfl | rfl | rfl <;> cases known
      | cons d more =>
        rw [left, List.cons_append, List.cons.injEq] at split
        have continues := inner d (left ▸ List.mem_cons_self)
        rw [split.1] at continues
        rw [Bool.or_eq_true, decide_eq_true_eq, decide_eq_true_eq] at known
        rcases known with rfl | rfl <;> exact absurd continues (by decide)

/-- The end of a number that may have an exponent, and has to unless it has a point. -/
def scaledEnd (pointed : Bool) : Reader Unit := do
  let scaled ← (do exponent; return true) <|> return false
  check (pointed || scaled)
  numberEnd

section Scaled
variable {pointed : Bool}

theorem scaledEnd_of_some {behind : List Char} (h : exponent.run cs = some ((), behind)) :
    (scaledEnd pointed).run cs = numberEnd.run behind := by
  have scaled : ((do exponent; return true) <|> return false : Reader Bool).run cs =
      some (true, behind) := run_orElse_of_some (by rw [StateT.run_bind, h]; rfl)
  rw [scaledEnd, StateT.run_bind, scaled]
  simp [run_check]

theorem scaledEnd_of_none (h : exponent.run cs = none) :
    (scaledEnd pointed).run cs = if pointed then numberEnd.run cs else none := by
  have scaled : ((do exponent; return true) <|> return false : Reader Bool).run cs =
      some (false, cs) := by
    refine (run_orElse_of_none ?_).trans rfl
    rw [StateT.run_bind, h]
    rfl
  rw [scaledEnd, StateT.run_bind, scaled]
  cases pointed <;> simp [run_check]

theorem isNameContinue_of_isSuffix (h : IsSuffix text) : ∀ c ∈ text, isNameContinue c := by
  rcases h with rfl | name
  · exact nofun
  · exact name.continues

/-- Where no exponent was read, none is read when what follows is changed. -/
theorem exponent_refused (names : ∀ c ∈ text, isNameContinue c) (stops : Stops mid)
    (closed : Closed rest) (h : exponent.run (text ++ mid) = none) :
    exponent.run (text ++ rest) = none := by
  cases taken : exponent.run (text ++ rest) with
  | none => rfl
  | some r =>
    obtain ⟨more, -, -, again⟩ := exponent_within names closed taken
    rw [again mid stops] at h
    cases h

theorem keeps_scaledEnd : Keeps Ended (scaledEnd pointed) := by
  intro cs u mid taken
  cases scaled : exponent.run cs with
  | some r =>
    obtain ⟨⟨⟩, behind⟩ := r
    rw [scaledEnd_of_some scaled] at taken
    obtain ⟨front, rfl, again⟩ := keeps_exponent cs () behind scaled
    obtain ⟨text, rfl, again'⟩ := keeps_numberEnd behind u mid taken
    refine ⟨front ++ text, (List.append_assoc ..).symm, fun rest closed => ?_⟩
    rw [List.append_assoc, scaledEnd_of_some (again _ (later_of closed text))]
    exact again' rest closed
  | none =>
    rw [scaledEnd_of_none scaled] at taken
    split at taken
    · next point =>
      obtain ⟨text, rfl, isSuffix, stops⟩ := of_run_numberEnd taken
      refine ⟨text, rfl, fun rest closed => ?_⟩
      rw [scaledEnd_of_none
        (exponent_refused (isNameContinue_of_isSuffix isSuffix) stops closed scaled), if_pos point]
      exact run_numberEnd isSuffix closed.stops
    · cases taken

end Scaled

/-- What stands behind a point that belongs to a number. -/
def OwnsPoint (cs : List Char) : Prop := ∀ c ∈ cs.head?, (c ≠ '.' && !isNameStart c) = true

instance : DecidablePred OwnsPoint
  | [] => .isTrue nofun
  | c :: _ => decidable_of_iff ((c ≠ '.' && !isNameStart c) = true)
    ⟨fun h _ same => Option.some.inj same ▸ h, fun h => h c rfl⟩

theorem Closed.ownsPoint (h : Closed cs) : OwnsPoint cs := by
  intro c hc
  have free := h.free (p := fun c => c = '.' || isNameStart c) (by decide) c hc
  simpa using free

theorem keeps_float : Keeps Ended float := by
  refine Keeps.any_bind (keeps_one isDigit) fun _ =>
    keeps_digits.bind ?_ fun text _ _ closed => later_of closed text
  intro _
  have point : Keeps (Later Ended) (accept ['.']) := by
    refine keeps_accept fun _ rest closed found => ?_
    have free := Closed.free (p := (· == '.')) (by decide) closed '.' found
    cases free
  refine point.bind ?_ fun text _ _ closed => later_of closed text
  intro pointed
  cases pointed with
  | false => exact keeps_scaledEnd
  | true =>
    have behind : Keeps Ended (do let _ ← many isDigitOrGap; scaledEnd true) :=
      keeps_digits.bind (fun _ => keeps_scaledEnd) fun text _ _ closed => later_of closed text
    refine behind.guarded (q := OwnsPoint) (fun cs => ?_) fun text mid rest closed owns => ?_
    · cases cs with
      | nil => rfl
      | cons c cs =>
        have owns : OwnsPoint (c :: cs) ↔ (c ≠ '.' && !isNameStart c) = true :=
          ⟨fun h => h c rfl, fun h d same => Option.some.inj same ▸ h⟩
        change (do check (c ≠ '.' && !isNameStart c); let _ ← many isDigitOrGap; scaledEnd true :
          Reader Unit).run (c :: cs) = _
        rw [StateT.run_bind, run_check]
        simp only [owns]
        split <;> rfl
    · cases text with
      | nil => exact Closed.ownsPoint closed
      | cons c text => exact fun d same => owns d same

theorem wholeDigits_within {base : Nat} {u : Unit} (h : (wholeDigits base).run cs = some (u, mid)) :
    ∃ c text, cs = c :: (text ++ mid) ∧ ∀ d ∈ c :: text, isNameContinue d := by
  simp only [wholeDigits, run_bind_eq_some, run_check] at h
  obtain ⟨digits, mid', taken, _, mid'', first, second⟩ := h
  obtain ⟨rfl, all, -⟩ := of_run_many taken
  split at first <;> cases first
  split at second <;> cases second
  next some =>
    cases digits with
    | nil => cases some
    | cons c text =>
      refine ⟨c, text, rfl, fun d hd => ?_⟩
      rcases Bool.or_eq_true _ _ ▸ all d hd with digit | digit
      · exact isNameContinue_of_isDigitOrGap digit
      · exact isNameContinue_of_isDigitOf digit

theorem keeps_wholeDigits (base : Nat) : Keeps (Later Ended) (wholeDigits base) := by
  refine (keeps_many fun _ rest closed => Closed.free ?_ closed).later_bind fun _ =>
    (keeps_check _).later_bind fun _ => keeps_check _
  rfl

/-- The digits of a whole number and what may follow them. -/
def numeral (base : Nat) : Reader Unit := do
  wholeDigits base
  numberEnd

theorem keeps_numeral (base : Nat) : Keeps Ended (numeral base) :=
  (keeps_wholeDigits base).bind (fun _ => keeps_numberEnd) fun text _ _ closed =>
    later_of closed text

theorem of_run_numeral {base : Nat} {u : Unit} (h : (numeral base).run cs = some (u, mid)) :
    ∃ c text, cs = c :: (text ++ mid) ∧ (∀ d ∈ c :: text, isNameContinue d) ∧ Stops mid := by
  obtain ⟨_, behind, digits, last⟩ := run_bind_eq_some.1 h
  obtain ⟨c, text, rfl, names⟩ := wholeDigits_within digits
  obtain ⟨text', rfl, isSuffix, stops⟩ := of_run_numberEnd last
  refine ⟨c, text ++ text', by simp, ?_, stops⟩
  rw [← List.cons_append, List.forall_mem_append]
  exact ⟨names, isNameContinue_of_isSuffix isSuffix⟩

theorem run_marked {mark : List Char} {x y : Reader Unit} :
    (accept mark >>= fun found => if found then x else y).run cs =
      if mark.isPrefixOf cs then x.run (cs.drop mark.length) else y.run cs := by
  rw [StateT.run_bind, run_accept]
  split <;> rfl

theorem run_whole : whole.run cs =
    if ['0', 'x'].isPrefixOf cs then (numeral 16).run (cs.drop 2)
    else if ['0', 'o'].isPrefixOf cs then (numeral 8).run (cs.drop 2)
    else if ['0', 'b'].isPrefixOf cs then (numeral 2).run (cs.drop 2)
    else if (cs.head?.map isDigit).getD false then (numeral 10).run cs else none := by
  have decimal : (do check (((← peek).map isDigit).getD false); numeral 10 : Reader Unit).run cs =
      if (cs.head?.map isDigit).getD false then (numeral 10).run cs else none := by
    change (check ((cs.head?.map isDigit).getD false) >>= fun _ => numeral 10).run cs = _
    rw [StateT.run_bind, run_check]
    split <;> rfl
  rw [← decimal]
  exact run_marked.trans (congrArg _ (run_marked.trans (congrArg _ run_marked)))

/-- How a whole number is read: behind the mark of its base, or else as it stands. -/
inductive WholeFront : List Char → Nat → List Char → Prop where
  | hexadecimal (cs : List Char) : WholeFront ['0', 'x'] 16 cs
  | octal (cs : List Char) : WholeFront ['0', 'o'] 8 cs
  | binary (cs : List Char) : WholeFront ['0', 'b'] 2 cs
  | decimal {c : Char} {cs : List Char} (digit : isDigit c)
      (plain : ∀ mark ∈ ['x', 'o', 'b'], ¬ ['0', mark] <+: c :: cs) : WholeFront [] 10 (c :: cs)

theorem run_whole_of_front {front : List Char} {base : Nat} (h : WholeFront front base cs) :
    whole.run (front ++ cs) = (numeral base).run cs := by
  rw [run_whole]
  cases h with
  | hexadecimal => rfl
  | octal => rfl
  | binary => rfl
  | decimal digit plain =>
    have marked : ∀ mark ∈ ['x', 'o', 'b'], ¬ ['0', mark].isPrefixOf _ :=
      fun mark known => mt List.isPrefixOf_iff_prefix.1 (plain mark known)
    rw [List.nil_append, if_neg (marked 'x' (by simp)), if_neg (marked 'o' (by simp)),
      if_neg (marked 'b' (by simp)), List.head?_cons, Option.map_some, Option.getD_some,
      if_pos digit]

theorem of_run_whole {u : Unit} (h : whole.run cs = some (u, mid)) :
    ∃ front base cs', cs = front ++ cs' ∧ WholeFront front base cs' ∧
      (numeral base).run cs' = some (u, mid) := by
  have behind {c : Char} (marked : ['0', c].isPrefixOf cs) : cs = ['0', c] ++ cs.drop 2 :=
    List.prefix_iff_eq_append.1 (List.isPrefixOf_iff_prefix.1 marked) |>.symm
  rw [run_whole] at h
  split at h
  · next marked => exact ⟨_, _, _, behind marked, .hexadecimal _, h⟩
  split at h
  · next marked => exact ⟨_, _, _, behind marked, .octal _, h⟩
  split at h
  · next marked => exact ⟨_, _, _, behind marked, .binary _, h⟩
  split at h
  · next hexadecimal octal binary digit =>
    cases cs with
    | nil => cases digit
    | cons c cs =>
      refine ⟨_, _, _, rfl, .decimal digit ?_, h⟩
      simp only [List.mem_cons, List.not_mem_nil, or_false, ← List.isPrefixOf_iff_prefix]
      rintro mark (rfl | rfl | rfl) <;> assumption
  · cases h

theorem keeps_whole : Keeps Ended whole := by
  intro cs u mid taken
  obtain ⟨front, base, cs, rfl, shape, numbered⟩ := of_run_whole taken
  obtain ⟨text, rfl, again⟩ := keeps_numeral base cs u mid numbered
  refine ⟨front ++ text, (List.append_assoc ..).symm, fun rest closed => ?_⟩
  have shape' : WholeFront front base (text ++ rest) := by
    obtain ⟨c, more, same, -, -⟩ := of_run_numeral numbered
    obtain rfl : text = c :: more := List.append_cancel_right (same : _ = (c :: more) ++ mid)
    generalize whole : c :: more ++ mid = cs at shape
    cases shape with
    | hexadecimal => exact .hexadecimal _
    | octal => exact .octal _
    | binary => exact .binary _
    | decimal digit plain =>
      cases whole
      refine .decimal digit fun mark known found => ?_
      cases more with
      | nil =>
        -- a single zero: the mark would be the first character behind it
        obtain ⟨-, more, rfl⟩ := List.cons_prefix_cons.1 found
        have letter : isNameContinue mark := by
          simp only [List.mem_cons, List.not_mem_nil, or_false] at known
          rcases known with rfl | rfl | rfl <;> decide
        rw [Closed.stops closed mark rfl] at letter
        cases letter
      | cons d more =>
        refine plain mark known ?_
        simpa [List.cons_prefix_cons] using found
  rw [List.append_assoc, run_whole_of_front shape']
  exact again rest closed

theorem whole_within {u : Unit} (h : whole.run (text ++ mid) = some (u, mid)) :
    (∃ c more, text = c :: more) ∧ (∀ c ∈ text, isNameContinue c) ∧ Stops mid := by
  obtain ⟨front, base, cs, split, shape, numbered⟩ := of_run_whole h
  obtain ⟨c, more, rfl, names, stops⟩ := of_run_numeral numbered
  obtain rfl : text = front ++ c :: more := List.append_cancel_right (by simpa using split)
  refine ⟨?_, ?_, stops⟩
  · cases front with
    | nil => exact ⟨c, more, rfl⟩
    | cons d front => exact ⟨d, front ++ c :: more, rfl⟩
  · have marks : ∀ c ∈ front, isNameContinue c := by
      cases shape <;> exact List.all_eq_true.1 (by decide)
    exact List.forall_mem_append.2 ⟨marks, names⟩

/-- A number without a point behind its first digits. -/
theorem run_float_plain {c : Char} (digit : isDigit c)
    (plain : (cs.dropWhile isDigitOrGap).head? ≠ some '.') :
    float.run (c :: cs) = (scaledEnd false).run (cs.dropWhile isDigitOrGap) := by
  have first : (one isDigit).run (c :: cs) = some (c, cs) := by rw [run_one, if_pos digit]
  have point : (accept ['.']).run (cs.dropWhile isDigitOrGap) =
      some (false, cs.dropWhile isDigitOrGap) := by rw [run_accept_char, if_neg plain]
  rw [float, StateT.run_bind, first, Option.bind_eq_bind, Option.bind_some, StateT.run_bind,
    run_many, List.span_eq_takeWhile_dropWhile, Option.bind_eq_bind, Option.bind_some,
    StateT.run_bind, point]
  rfl

theorem head_of_exponent {u : Unit} (h : exponent.run cs = some (u, rest)) :
    cs.head? ≠ some '.' := by
  obtain ⟨c, mid, first, -⟩ := run_bind_eq_some.1 h
  have letter := of_run_one first
  rw [eq_cons_of_one first]
  rintro ⟨⟩
  cases letter

theorem isSuffix_of_numberEnd {u : Unit} (names : ∀ c ∈ text, isNameContinue c)
    (h : numberEnd.run (text ++ rest) = some (u, mid)) : IsSuffix text := by
  obtain ⟨front, same, isSuffix, stops⟩ := of_run_numberEnd h
  cases text with
  | nil => exact .inl rfl
  | cons c text =>
    have continues := names c List.mem_cons_self
    rcases isSuffix with rfl | ⟨d, more, rfl, start, -⟩
    · rw [List.nil_append] at same
      subst same
      rw [stops c rfl] at continues
      cases continues
    · obtain rfl : c = d := (List.cons.inj same).1
      exact .inr ⟨c, text, rfl, start, fun d hd => names d (List.mem_cons_of_mem c hd)⟩

/-- A whole number does not become one with a point or an exponent when what follows is changed. -/
theorem float_refused {u : Unit} (h : float.run (text ++ mid) = none)
    (taken : whole.run (text ++ mid) = some (u, mid)) (closed : Closed rest) :
    float.run (text ++ rest) = none := by
  obtain ⟨⟨c, more, rfl⟩, names, stops⟩ := whole_within taken
  by_cases digit : isDigit c
  · let behind := more.dropWhile isDigitOrGap
    have within {z : List Char} (stop : Stops z) :
        (more ++ z).dropWhile isDigitOrGap = behind ++ z := by
      have run : (many isDigitOrGap).run (more ++ z) = some _ := run_many_within stop.digits
      rw [run_many, List.span_eq_takeWhile_dropWhile, Option.some_inj, Prod.mk.injEq] at run
      exact run.2
    have inside : ∀ d ∈ behind, isNameContinue d := fun d hd =>
      names d (List.mem_cons_of_mem c ((List.dropWhile_suffix _).subset hd))
    have plain : (behind ++ rest).head? ≠ some '.' := by
      cases left : behind with
      | nil => exact fun found => absurd (closed '.' found) (by decide)
      | cons d behind =>
        rintro ⟨⟩
        exact absurd (inside '.' (left ▸ List.mem_cons_self)) (by decide)
    have float_rest : float.run (c :: more ++ rest) = (scaledEnd false).run (behind ++ rest) := by
      rw [← within closed.stops] at plain ⊢
      exact run_float_plain digit plain
    rw [float_rest]
    cases scaled : exponent.run (behind ++ rest) with
    | none => exact scaledEnd_of_none scaled
    | some r =>
      obtain ⟨⟨⟩, left⟩ := r
      obtain ⟨suffix, rfl, beyond, again⟩ := exponent_within inside closed scaled
      rw [scaledEnd_of_some scaled]
      cases ended : numberEnd.run (suffix ++ rest) with
      | none => rfl
      | some r =>
        obtain ⟨u, left⟩ := r
        have isSuffix := isSuffix_of_numberEnd beyond ended
        have scaled' := again mid stops
        have float_mid : float.run (c :: more ++ mid) = (scaledEnd false).run (behind ++ mid) := by
          have plain' := head_of_exponent scaled'
          rw [← within stops] at plain' ⊢
          exact run_float_plain digit plain'
        rw [float_mid, scaledEnd_of_some scaled', run_numberEnd isSuffix stops] at h
        cases h
  · rw [float, StateT.run_bind, List.cons_append, run_one, if_neg digit]
    rfl

end Concretize.Code.Lexing
