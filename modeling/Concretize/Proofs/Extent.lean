import Concretize.Proofs.AttributeText

/-!
# The extent of rules

A rule of the grammar takes the tokens it takes whatever stands behind them, as long as that ends or
goes on with a comma. So what a rule takes out of a list with commas is what it takes by itself.

* `Local`: the rule takes some tokens at least, and takes the same ones in front of other code that
  is alike for some tokens. The looks that a rule takes may not reach further (`Blind`).
* `Local.bind`, `Local.append`, `Local.ite`, `Local.get`: the property goes through sequences and
  choices.
* `local_repeatWhile`, `local_chain`, `local_separated`, `local_listed`: and through the loops, for
  which the bound on the number of turns makes no difference (`Steps.run_eq`).
-/
namespace Concretize.Code

open Text.Reader

/-! ## The same tokens -/

/-- Nothing comes next, or a comma. -/
inductive Ends : Code → Prop where
  | nil : Ends []
  | comma (joint : Bool) (rest : Code) : Ends (.punct ',' joint :: rest)

/-- Two tokens that are a lifetime. -/
theorem eq_of_lifetime {t t' : Token} (h : Look.lifetime [t, t']) :
    ∃ joint name, t = .punct '\'' joint ∧ t' = .word name := by
  unfold Look.lifetime at h
  split at h
  · next same => cases same; exact ⟨_, _, rfl, rfl⟩
  · cases h

/-- A token that begins no lifetime is skipped alone. -/
theorem skip_cons {t t' : Token} {rest : Code} (h : ¬ Look.lifetime [t, t']) :
    Look.skip (t :: t' :: rest) = t' :: rest := by
  unfold Look.skip
  split
  · next same => cases same; exact absurd rfl h
  · next same => cases same; rfl
  · next same => cases same

/-- The same tokens, at least so many, up to where each code ends or goes on with a comma. -/
def Alike (n : Nat) (z e : Code) : Prop :=
  ∃ w z' e', n ≤ w.length ∧ Ends z' ∧ Ends e' ∧ z = w ++ z' ∧ e = w ++ e'

variable {n : Nat} {z e : Code}

theorem Ends.alike (hz : Ends z) (he : Ends e) : Alike 0 z e :=
  ⟨[], z, e, Nat.le_refl 0, hz, he, rfl, rfl⟩

theorem Alike.append (c : Code) (h : Alike n z e) : Alike (n + c.length) (c ++ z) (c ++ e) := by
  obtain ⟨w, z', e', long, hz, he, rfl, rfl⟩ := h
  refine ⟨c ++ w, z', e', ?_, hz, he, by simp, by simp⟩
  rw [List.length_append]
  omega

theorem Alike.mono {m : Nat} (h : Alike n z e) (le : m ≤ n) : Alike m z e := by
  obtain ⟨w, z', e', long, rest⟩ := h
  exact ⟨w, z', e', le.trans long, rest⟩

theorem Alike.head (h : Alike (n + 1) z e) : ∃ t z' e', z = t :: z' ∧ e = t :: e' := by
  obtain ⟨w, z', e', long, -, -, rfl, rfl⟩ := h
  obtain ⟨t, w, rfl⟩ := List.exists_cons_of_length_pos (Nat.lt_of_lt_of_le (Nat.succ_pos n) long)
  exact ⟨t, w ++ z', w ++ e', rfl, rfl⟩

/-- Of a lifetime, which is two tokens, the name is never where code ends. -/
theorem Alike.skip (h : Alike 1 z e) : Alike 0 (Look.skip z) (Look.skip e) := by
  obtain ⟨w, z', e', long, hz, he, rfl, rfl⟩ := h
  obtain ⟨t, w, rfl⟩ := List.exists_cons_of_length_pos long
  have behind : Alike 0 (w ++ z') (w ++ e') := ⟨w, z', e', Nat.zero_le _, hz, he, rfl, rfl⟩
  have one {x : Code} (hx : Ends x) : Look.skip (t :: x) = x := by
    cases hx <;> cases t <;> simp [Look.skip]
  cases w with
  | nil =>
    change Alike 0 (Look.skip (t :: z')) (Look.skip (t :: e'))
    rw [one hz, one he]
    exact hz.alike he
  | cons t' w =>
    by_cases named : Look.lifetime [t, t']
    · obtain ⟨joint, name, rfl, rfl⟩ := eq_of_lifetime named
      exact ⟨w, z', e', Nat.zero_le _, hz, he, rfl, rfl⟩
    · have later (x : Code) : Look.skip (t :: t' :: w ++ x) = t' :: w ++ x := skip_cons named
      rw [later, later]
      exact behind

/-! ## What can be seen -/

/-- A function of the code ahead, such as a look, that does not reach beyond what is alike. -/
def Blind {β : Type} (n : Nat) (f : Code → β) : Prop := ∀ ⦃z e : Code⦄, Alike n z e → f z = f e

section Looks

variable {p q : Look}

theorem Blind.mono {m : Nat} {β : Type} {f : Code → β} (h : Blind m f) (le : m ≤ n) : Blind n f :=
  fun _ _ alike => h (alike.mono le)

theorem Blind.wide {β : Type} {f : Code → β} (h : Blind 0 f) : Blind n f := h.mono (Nat.zero_le n)

theorem blind_const {β : Type} (b : β) : Blind n fun _ => b := fun _ _ _ => rfl

theorem Blind.ite {β : Type} {f f' : Code → β} (hp : Blind n p) (hf : Blind n f)
    (hf' : Blind n f') : Blind n fun code => if p code then f code else f' code :=
  fun _ _ alike => by simp only [hp alike, hf alike, hf' alike]

theorem Blind.not (h : Blind n p) : Blind n fun code => !p code :=
  fun _ _ alike => congrArg (! ·) (h alike)

theorem Blind.and (hp : Blind n p) (hq : Blind n q) : Blind n fun code => p code && q code :=
  fun _ _ alike => congrArg₂ (· && ·) (hp alike) (hq alike)

theorem Blind.or (hp : Blind n p) (hq : Blind n q) : Blind n fun code => p code || q code :=
  fun _ _ alike => congrArg₂ (· || ·) (hp alike) (hq alike)

theorem Blind.any {β : Type} {f : β → Look} {bs : List β} (h : ∀ b ∈ bs, Blind n (f b)) :
    Blind n fun code => bs.any fun b => f b code := by
  intro z e alike
  change bs.any (f · z) = bs.any (f · e)
  induction bs with
  | nil => rfl
  | cons b bs ih =>
    rw [List.forall_mem_cons] at h
    rw [List.any_cons, List.any_cons, h.1 alike, ih h.2]

/-- A look at the next token is never mistaken while there is one. -/
theorem blind_of_head {β : Type} {f : Code → β} (head : ∀ t z e, f (t :: z) = f (t :: e)) :
    Blind 1 f := by
  rintro z e ⟨w, z', e', long, -, -, rfl, rfl⟩
  match w, long with
  | t :: w, _ => exact head t _ _

/-- A look fails where code ends. -/
def Fails (p : Look) : Prop := ∀ ⦃z : Code⦄, Ends z → p z = false

theorem fails_of {p : Look} (nil : p [] = false)
    (comma : ∀ joint z, p (.punct ',' joint :: z) = false) : Fails p := by
  rintro z (_ | _)
  exacts [nil, comma _ _]

/-- A look that fails where code ends is not mistaken there. -/
theorem Blind.zero {p : Look} (h : Blind 1 p) (fails : Fails p) : Blind 0 p := by
  rintro z e ⟨w, z', e', -, hz, he, rfl, rfl⟩
  cases w with
  | nil => exact (fails hz).trans (fails he).symm
  | cons t w => exact h ⟨t :: w, z', e', Nat.succ_le_succ (Nat.zero_le _), hz, he, rfl, rfl⟩

theorem Fails.and (h : Fails p) (q : Look) : Fails fun code => p code && q code :=
  fun _ ends => by simp [h ends]

theorem Fails.or (hp : Fails p) (hq : Fails q) : Fails fun code => p code || q code :=
  fun _ ends => by simp [hp ends, hq ends]

theorem Blind.second (h : Blind 0 p) : Blind 1 (Look.second p) := fun _ _ alike => h alike.skip

section Tokens

theorem fails_word (w : String) : Fails (Look.word w) := fails_of rfl fun _ _ => rfl
theorem fails_oneOf (ws : List String) : Fails (Look.oneOf ws) := fails_of rfl fun _ _ => rfl
theorem fails_anyWord : Fails Look.anyWord := fails_of rfl fun _ _ => rfl
theorem fails_name : Fails Look.name := fails_of rfl fun _ _ => rfl
theorem fails_group (d : Delimiter) : Fails (Look.group d) := fails_of rfl fun _ _ => rfl
theorem fails_pathWord : Fails Look.pathWord := fails_name.or (fails_oneOf _)
theorem fails_lifetime : Fails Look.lifetime := fails_of rfl fun _ _ => rfl
theorem fails_literal : Fails Look.literal := fails_of rfl fun _ _ => rfl

theorem blind_word (w : String) : Blind 0 (Look.word w) :=
  (blind_of_head fun t _ _ => by cases t <;> rfl).zero (fails_word w)

theorem blind_oneOf (ws : List String) : Blind 0 (Look.oneOf ws) :=
  (blind_of_head fun t _ _ => by cases t <;> rfl).zero (fails_oneOf ws)

theorem blind_anyWord : Blind 0 Look.anyWord :=
  (blind_of_head fun t _ _ => by cases t <;> rfl).zero fails_anyWord

theorem blind_name : Blind 0 Look.name :=
  (blind_of_head fun t _ _ => by cases t <;> rfl).zero fails_name

theorem blind_group (d : Delimiter) : Blind 0 (Look.group d) :=
  (blind_of_head fun t _ _ => by cases t <;> rfl).zero (fails_group d)

theorem blind_pathWord : Blind 0 Look.pathWord := blind_name.or (blind_oneOf _)

/-- A look at two tokens, the second of which is not where code ends. -/
theorem blind_of_pair {p : Look} (fails : Fails p) (pair : ∀ t t' z e, p (t :: t' :: z) =
    p (t :: t' :: e)) (one : ∀ t z, Ends z → p (t :: z) = p [t]) : Blind 0 p := by
  rintro z e ⟨w, z', e', -, hz, he, rfl, rfl⟩
  match w with
  | [] => exact (fails hz).trans (fails he).symm
  | [t] => exact (one t z' hz).trans (one t e' he).symm
  | t :: t' :: w => exact pair t t' _ _

theorem blind_lifetime : Blind 0 Look.lifetime := by
  refine blind_of_pair fails_lifetime (fun t t' z e => ?_) fun t z hz => ?_
  · unfold Look.lifetime; split <;> simp_all
  · cases hz <;> cases t <;> simp [Look.lifetime]

theorem blind_literal : Blind 0 Look.literal := by
  refine blind_of_pair fails_literal (fun t t' z e => ?_) fun t z hz => ?_
  · unfold Look.literal; split <;> simp_all
  · cases hz <;> cases t <;> simp [Look.literal]

/-! ### Operators -/

theorem chars_end {cs : List Char} (filled : cs ≠ []) (plain : ',' ∉ cs) (h : Ends z) :
    Look.chars cs z = false := by
  obtain ⟨c, cs, rfl⟩ := List.exists_cons_of_ne_nil filled
  have other : (c == ',') = false := beq_eq_false_iff_ne.2 fun same => plain (by simp [same])
  cases h with
  | nil => cases cs <;> rfl
  | comma joint rest =>
    cases cs with
    | nil => exact other
    | cons c' cs => cases joint <;> simp [Look.chars, other]

/-- An operator without a comma does not reach beyond what is alike. -/
theorem chars_alike {cs : List Char} (plain : ',' ∉ cs) {w z e : Code} (hz : Ends z)
    (he : Ends e) : Look.chars cs (w ++ z) = Look.chars cs (w ++ e) := by
  induction cs generalizing w with
  | nil => rfl
  | cons c cs ih =>
    cases w with
    | nil =>
      exact (chars_end (List.cons_ne_nil c cs) plain hz).trans
        (chars_end (List.cons_ne_nil c cs) plain he).symm
    | cons t w =>
      have behind := @ih (fun inside => plain (List.mem_cons_of_mem c inside)) w
      cases cs with
      | nil => cases t <;> rfl
      | cons c' cs =>
        cases t with
        | punct d joint =>
          cases joint with
          | true => exact congrArg (c == d && ·) behind
          | false => rfl
        | _ => rfl

theorem blind_op {s : String} (plain : ',' ∉ s.toList) : Blind 0 (Look.op s) := by
  rintro z e ⟨w, z', e', -, hz, he, rfl, rfl⟩
  exact chars_alike plain hz he

theorem fails_op {s : String} (filled : s.toList ≠ []) (plain : ',' ∉ s.toList) :
    Fails (Look.op s) :=
  fun _ ends => chars_end filled plain ends

/-- An operator of one character is a matter of the next token. -/
theorem blind_op_one {s : String} (one : s.toList.length = 1) : Blind 1 (Look.op s) := by
  obtain ⟨c, same⟩ := List.length_eq_one_iff.1 one
  refine blind_of_head fun t z e => ?_
  change Look.chars s.toList (t :: z) = Look.chars s.toList (t :: e)
  rw [same]
  cases t <;> rfl

theorem blind_oneOp {ops : List String} (plain : ∀ s ∈ ops, ',' ∉ s.toList) :
    Blind 0 (Look.oneOp ops) :=
  Blind.any fun s hs => blind_op (plain s hs)

theorem blind_oneOp_one {ops : List String} (one : ∀ s ∈ ops, s.toList.length = 1) :
    Blind 1 (Look.oneOp ops) :=
  Blind.any fun s hs => blind_op_one (one s hs)

theorem eq_of_char {c : Char} (h : Look.chars [c] z) :
    ∃ joint rest, z = .punct c joint :: rest := by
  match z with
  | .punct d joint :: rest => exact ⟨joint, rest, by rw [beq_iff_eq.1 h]⟩
  | .word _ :: _ | .literal _ :: _ | .group _ _ :: _ | [] => cases h

theorem eq_of_colons (h : Look.op "::" z) :
    ∃ joint rest, z = .punct ':' true :: .punct ':' joint :: rest := by
  match z with
  | .punct d true :: behind =>
    obtain ⟨first, second⟩ := Bool.and_eq_true_iff.1
      (show (':' == d && Look.chars [':'] behind) = true from h)
    obtain ⟨joint, rest, rfl⟩ := eq_of_char second
    exact ⟨joint, rest, by rw [beq_iff_eq.1 first]⟩
  | .punct _ false :: _ | .word _ :: _ | .literal _ :: _ | .group _ _ :: _ | [] => cases h

/-- What is looked at behind two colons that are there. -/
theorem blind_behindColons (h : Blind 0 p) :
    Blind 0 fun code => Look.op "::" code && Look.third p code := by
  rintro z e alike
  have same : Look.op "::" z = Look.op "::" e := blind_op (by decide) alike
  cases colons : Look.op "::" z with
  | false => simp [colons, ← same]
  | true =>
    obtain ⟨w, z', e', -, hz, he, rfl, rfl⟩ := alike
    obtain ⟨joint, rest, shape⟩ := eq_of_colons colons
    rw [same] at colons
    match w with
    | [] => cases hz <;> cases shape
    | [t] => cases hz <;> cases shape
    | t :: t' :: w =>
      obtain ⟨rfl, rfl, rfl⟩ : t = .punct ':' true ∧ t' = .punct ':' joint ∧ w ++ z' = rest := by
        simpa using shape
      exact congrArg₂ (· && ·) same (h ⟨w, z', e', Nat.zero_le _, hz, he, rfl, rfl⟩)

end Tokens

end Looks

/-! ## What is taken -/

namespace Rule

variable {α β : Type} {m k l : Nat}

/-- A rule that takes at least `m` tokens, and the same ones in front of code that is alike for `n`
tokens. -/
def Local (m n : Nat) (r : Rule α) : Prop :=
  ∀ ⦃z : Code⦄ ⦃a : α⦄ ⦃z' : Code⦄, r.run z = some (a, z') →
    ∃ c, m ≤ c.length ∧ z = c ++ z' ∧ ∀ e, Alike n z' e → r.run (c ++ e) = some (a, e)

theorem Local.mono {r : Rule α} (h : Local m n r) (le : n ≤ l) : Local m l r := by
  intro z a z' hr
  obtain ⟨c, long, rfl, same⟩ := h hr
  exact ⟨c, long, rfl, fun e alike => same e (alike.mono le)⟩

theorem Local.wide {r : Rule α} (h : Local m 0 r) : Local m n r := h.mono (Nat.zero_le n)

theorem Local.less {r : Rule α} (h : Local m n r) (le : k ≤ m) : Local k n r := by
  intro z a z' hr
  obtain ⟨c, long, rfl, same⟩ := h hr
  exact ⟨c, le.trans long, rfl, same⟩

theorem Local.free {r : Rule α} (h : Local m n r) : Local 0 n r := h.less (Nat.zero_le m)

theorem local_pure (a : α) : Local 0 n (pure a : Rule α) := by
  intro z b z' h
  obtain ⟨rfl, rfl⟩ := run_pure_eq_some.1 h
  exact ⟨[], Nat.le_refl 0, rfl, fun e _ => rfl⟩

theorem local_failure : Local m n (failure : Rule α) := nofun

/-- What is taken later stands between the first rule and what follows. -/
theorem Local.bind {r : Rule α} {f : α → Rule β} (hr : Local m (n + l) r)
    (hf : ∀ a, Local l n (f a)) : Local (m + l) n (r >>= f) := by
  intro z b z'' h
  obtain ⟨a, z', first, second⟩ := run_bind_eq_some.1 h
  obtain ⟨c, long, rfl, same⟩ := hr first
  obtain ⟨d, longer, rfl, same'⟩ := hf a second
  refine ⟨c ++ d, by rw [List.length_append]; omega, by simp, fun e alike => ?_⟩
  rw [List.append_assoc]
  exact run_bind_eq_some.2 ⟨a, d ++ e, same _ ((alike.append d).mono (by omega)), same' e alike⟩

/-- Where the first rule takes a token, it does not matter whether the later ones do. -/
theorem Local.first {r : Rule α} {f : α → Rule β} (hr : Local 1 (n + l) r)
    (hf : ∀ a, Local l n (f a)) : Local 1 n (r >>= f) :=
  (hr.bind hf).less (Nat.le_add_right 1 l)

theorem Local.append {p q : Rule (List α)} (hp : Local m (n + l) p) (hq : Local l n q) :
    Local (m + l) n (p ++ q) :=
  hp.bind fun _ => hq.bind (l := 0) fun _ => local_pure _

theorem Local.ite {c : Prop} [Decidable c] {p q : Rule α} (hp : Local m n p) (hq : Local m n q) :
    Local m n (if c then p else q) := by
  split
  exacts [hp, hq]

theorem Local.get {f : Code → Rule α} (blind : Blind (n + m) f) (h : ∀ z, Local m n (f z)) :
    Local m n (get >>= f) := by
  intro z a z' hr
  obtain ⟨c, long, rfl, same⟩ := h z hr
  refine ⟨c, long, rfl, fun e alike => ?_⟩
  have ahead := blind ((alike.append c).mono (Nat.add_le_add_left long n))
  change (f (c ++ e)).run (c ++ e) = _
  rw [← ahead]
  exact same e alike

/-- What follows a rule that looks ahead as a whole. -/
theorem Local.get_bind {f : Code → Rule α} {f' : α → Rule β}
    (h : Local m (n + l) (MonadState.get >>= f)) (h' : ∀ a, Local l n (f' a)) :
    Local (m + l) n (MonadState.get >>= fun z => f z >>= f') :=
  h.bind h'

theorem Local.ahead {p : Look} {f : Bool → Rule α} (blind : Blind (n + m) p)
    (h : ∀ b, Local m n (f b)) : Local m n (ahead p >>= f) :=
  Local.get (f := fun z => f (p z)) (fun _ _ alike => congrArg f (blind alike)) fun z => h (p z)

theorem Local.maybe {p : Look} {r : Rule (List α)} (blind : Blind n p) (h : Local 0 n r) :
    Local 0 n (maybe p r) :=
  Local.ahead blind fun _ => .ite h (local_pure _)

theorem whole?_eq_some {r : Rule α} {c : Code} {a : α} :
    r.whole? c = some a ↔ r.run c = some (a, []) := by
  unfold whole?
  split
  · next b same => simp [same]
  · next other => simpa using fun same => other a same

/-- In front of code that ends or goes on with a comma, what is taken is a whole piece of code. -/
theorem Local.run_eq_some_iff {r : Rule α} (h : Local m 0 r) {a : α} {z' : Code} (ends : Ends z') :
    r.run z = some (a, z') ↔ ∃ c, z = c ++ z' ∧ r.whole? c = some a := by
  simp only [whole?_eq_some]
  constructor
  · intro run
    obtain ⟨c, -, rfl, same⟩ := h run
    have alone := same [] (ends.alike .nil)
    rw [List.append_nil] at alone
    exact ⟨c, rfl, alone⟩
  · rintro ⟨c, rfl, run⟩
    obtain ⟨d, -, rfl, same⟩ := h run
    rw [List.append_nil]
    exact same z' (Ends.nil.alike ends)

/-! ### Tokens -/

/-- A rule that takes a few tokens and looks at no others. -/
theorem local_of_front {r : Rule α} (h : ∀ {z : Code} {a : α} {z' : Code}, r.run z = some (a, z') →
    ∃ c, m ≤ c.length ∧ z = c ++ z' ∧ ∀ e, r.run (c ++ e) = some (a, e)) : Local m n r := by
  intro z a z' hr
  obtain ⟨c, long, rfl, same⟩ := h hr
  exact ⟨c, long, rfl, fun e _ => same e⟩

theorem local_token : Local 1 n token := by
  refine local_of_front fun {z} {a} {z'} h => ?_
  match z with
  | [] => cases h
  | t :: z => cases h; exact ⟨[t], Nat.le_refl 1, rfl, fun e => rfl⟩

theorem local_anyWord : Local 1 n anyWord := by
  refine local_of_front fun {z} {a} {z'} h => ?_
  obtain rfl := eq_cons_of_anyWord h
  exact ⟨[.word a], Nat.le_refl 1, rfl, fun e => rfl⟩

/-- A look before a rule, at what that rule takes. -/
theorem local_expect {p : Look} {r : Rule α} (blind : Blind (n + m) p) (h : Local m n r) :
    Local m n (expect p >>= fun _ => r) := by
  refine Local.get (f := fun z => (if p z then pure () else failure : Rule Unit) >>= fun _ => r)
    (fun _ _ alike => by simp only [blind alike]) fun z => ?_
  exact (Local.bind (.ite (local_pure ()) local_failure) fun _ => h).less (Nat.le_add_left m 0)

theorem local_word (w : String) : Local 1 n (word w) :=
  local_expect (blind_word w).wide local_token

theorem local_name : Local 1 n name :=
  local_expect blind_name.wide local_anyWord

theorem local_nameCode : Local 1 n nameCode := local_name.bind fun _ => local_pure _

theorem local_wordCode : Local 1 n wordCode := local_anyWord.bind fun _ => local_pure _

theorem local_lifetime : Local 2 n lifetime :=
  local_expect blind_lifetime.wide
    (local_token.bind fun _ => local_token.bind fun _ => local_pure _)

/-- The tokens of an operator. -/
theorem chars_front {cs : List Char} {z : Code} (h : Look.chars cs z) :
    ∃ c, c.length = cs.length ∧ z = c ++ z.drop cs.length ∧ ∀ e, Look.chars cs (c ++ e) := by
  induction cs generalizing z with
  | nil => exact ⟨[], rfl, rfl, fun e => rfl⟩
  | cons x cs ih =>
    cases cs with
    | nil =>
      obtain ⟨joint, rest, rfl⟩ := eq_of_char h
      exact ⟨[.punct x joint], rfl, rfl, fun e => beq_self_eq_true x⟩
    | cons x' cs =>
      match z with
      | .punct d true :: rest =>
        obtain ⟨first, behind⟩ := Bool.and_eq_true_iff.1
          (show (x == d && Look.chars (x' :: cs) rest) = true from h)
        obtain ⟨c, long, shape, same⟩ := ih behind
        refine ⟨.punct d true :: c, by simp [long], ?_, fun e => ?_⟩
        · rw [List.cons_append, List.length_cons, List.drop_succ_cons, ← shape]
        · exact Bool.and_eq_true_iff.2 ⟨first, same e⟩
      | .punct _ false :: _ | .word _ :: _ | .literal _ :: _ | .group _ _ :: _ | [] => cases h

theorem local_op {s : String} (filled : 0 < s.toList.length) : Local 1 n (op s) := by
  refine local_of_front fun {z} {a} {z'} h => ?_
  have seen : Look.op s z := by
    simp only [op, run_bind_eq_some] at h
    obtain ⟨_, _, expected, -⟩ := h
    exact (of_run_expect expected).1
  obtain ⟨rfl, rfl⟩ := of_run_op h
  obtain ⟨c, long, shape, same⟩ := chars_front seen
  rw [String.length_toList] at long filled shape
  refine ⟨c, by omega, shape, fun e => ?_⟩
  rw [run_op (same e), ← long, List.drop_left]

theorem local_check (condition : Bool) : Local 0 n (check condition) :=
  .ite (local_pure ()) local_failure

theorem local_literal : Local 1 n literal := by
  refine local_expect blind_literal.wide ?_
  refine Local.ahead (blind_op (by decide)).wide fun _ => .ite ?_ local_token
  exact (local_op (by decide)).first fun _ => local_token.bind fun _ => local_pure _

/-- What is inside brackets is always the same. -/
theorem local_inside (d : Delimiter) (r : Rule α) : Local 1 n (inside d r) := by
  refine local_of_front fun {z} {a} {z'} h => ?_
  obtain ⟨inner, rfl, taken⟩ := of_run_inside h
  exact ⟨[.group d inner], Nat.le_refl 1, rfl, fun e => run_inside taken⟩

theorem local_grouped (d : Delimiter) (r : Rule Code) : Local 1 n (grouped d r) :=
  (local_inside d r).bind fun _ => local_pure _

theorem local_anyGroup : Local 1 n anyGroup := by
  refine local_of_front fun {z} {a} {z'} h => ?_
  match z with
  | .group d inner :: z => cases h; exact ⟨[.group d inner], Nat.le_refl 1, rfl, fun e => rfl⟩
  | .word _ :: _ | .literal _ :: _ | .punct .. :: _ | [] => cases h

theorem local_optionalWord (w : String) : Local 0 n (optionalWord w) :=
  .maybe (blind_word w).wide (local_word w).free

theorem local_optionalOp {s : String} (filled : 0 < s.toList.length) (plain : ',' ∉ s.toList) :
    Local 0 n (optionalOp s) :=
  .maybe (blind_op plain).wide (local_op filled).free

/-! ### Loops -/

theorem run_bind_congr {r : Rule α} {f f' : α → Rule β} {z : Code}
    (h : ∀ {a z'}, r.run z = some (a, z') → (f a).run z' = (f' a).run z') :
    (r >>= f).run z = (r >>= f').run z := by
  change (r.run z).bind _ = (r.run z).bind _
  cases first : r.run z with
  | none => rfl
  | some next => exact h first

theorem run_bind_congr_left {r r' : Rule α} {f : α → Rule β} {z : Code} (h : r.run z = r'.run z) :
    (r >>= f).run z = (r' >>= f).run z := by
  rw [StateT.run_bind, StateT.run_bind, h]

theorem run_ite_congr {c : Prop} [Decidable c] {p q p' q' : Rule α} {z : Code}
    (hp : p.run z = p'.run z) (hq : q.run z = q'.run z) :
    (if c then p else q).run z = (if c then p' else q').run z := by
  split
  exacts [hp, hq]

theorem run_ahead_congr {p : Look} {f f' : Bool → Rule α} {z : Code}
    (h : ∀ b, (f b).run z = (f' b).run z) : (ahead p >>= f).run z = (ahead p >>= f').run z :=
  h (p z)

theorem run_get_congr {f f' : Code → Rule α} {z : Code} (h : (f z).run z = (f' z).run z) :
    (get >>= f : Rule α).run z = (get >>= f' : Rule α).run z := h

/-- Each turn of a loop comes to less code before the next one. -/
def Steps (F : Nat → Rule α) : Prop :=
  ∀ ⦃n m : Nat⦄ ⦃z : Code⦄, (∀ z' : Code, z'.length < z.length → (F n).run z' = (F m).run z') →
    (F (n + 1)).run z = (F (m + 1)).run z

/-- A loop makes no use of turns beyond the tokens there are, nor of one where it is idle. -/
theorem Steps.run_eq {F : Nat → Rule α} (steps : Steps F) {k : Nat}
    (idle : ∀ n (z : Code), z.length < k → (F n).run z = (F 0).run z) {n m : Nat} {z : Code}
    (hn : z.length < n + k) (hm : z.length < m + k) : (F n).run z = (F m).run z := by
  induction n generalizing z m with
  | zero => exact (idle m z (by omega)).symm
  | succ n ih =>
    cases m with
    | zero => exact idle (n + 1) z (by omega)
    | succ m => exact steps fun z' less => ih (by omega) (by omega)

/-- A loop that is bounded by the tokens there are. -/
theorem Local.loop {F : Nat → Rule α} {t : Nat → Nat}
    (enough : ∀ {n m} {z : Code}, t z.length ≤ n → t z.length ≤ m →
      (F n).run z = (F m).run z)
    (h : ∀ turns, Local m n (F turns)) :
    Local m n (MonadState.get >>= fun z => F (t z.length)) := by
  intro z a z' hr
  change (F (t z.length)).run z = _ at hr
  obtain ⟨c, long, rfl, -⟩ := h _ hr
  refine ⟨c, long, rfl, fun e alike => ?_⟩
  rw [enough (Nat.le_refl _) (le_max_left _ (t (c ++ e).length))] at hr
  obtain ⟨d, -, same, run⟩ := h _ hr
  obtain rfl := List.append_cancel_right same
  change (F (t (c ++ e).length)).run (c ++ e) = _
  rw [enough (Nat.le_refl _) (le_max_right (t (c ++ z').length) _)]
  exact run e alike

theorem Local.shorter {r : Rule α} (h : Local 1 n r) {z z' : Code} {a : α}
    (hr : r.run z = some (a, z')) : z'.length < z.length := by
  obtain ⟨c, long, rfl, -⟩ := h hr
  rw [List.length_append]
  omega

theorem Local.noLonger {r : Rule α} (h : Local m n r) {z z' : Code} {a : α}
    (hr : r.run z = some (a, z')) : z'.length ≤ z.length := by
  obtain ⟨c, -, rfl, -⟩ := h hr
  rw [List.length_append]
  omega

section Loops

variable {p ends separates : Look} {r separator item : Rule (List α)}

theorem run_maybe_congr {r r' : Rule (List α)} {z : Code} (h : r.run z = r'.run z) :
    (maybe p r).run z = (maybe p r').run z := by
  rw [run_maybe, run_maybe, h]

theorem steps_repeatUpTo (h : Local 1 n r) : Steps (repeatUpTo p r) := by
  intro n m z later
  exact run_maybe_congr (run_bind_congr fun hr => run_bind_congr_left (later _ (h.shorter hr)))

theorem local_repeatWhile (blind : Blind n p) (idle : p [] = false) (h : Local 1 n r) :
    Local 0 n (repeatWhile p r) := by
  refine Local.loop (F := repeatUpTo p r) (t := fun n => n) (fun {i j z} hi hj => ?_)
    fun turns => ?_
  · refine (steps_repeatUpTo h).run_eq (k := 1) (fun i z none => ?_) (by omega) (by omega)
    obtain rfl : z = [] := List.length_eq_zero_iff.1 (by omega)
    cases i with
    | zero => rfl
    | succ i => exact run_maybe.trans (by rw [idle]; rfl)
  · induction turns with
    | zero => exact local_pure []
    | succ turns ih => exact .maybe blind (h.append ih).free

theorem steps_chainUpTo (hs : Local 0 n separator) (h : Local 1 n item) :
    Steps (chainUpTo ends separates separator item) := by
  intro i j z later
  refine run_ahead_congr fun _ => run_ite_congr rfl (run_bind_congr fun hr => ?_)
  refine run_bind_congr_left (run_maybe_congr (run_bind_congr fun hs' => ?_))
  exact run_bind_congr_left (later _ ((hs.noLonger hs').trans_lt (h.shorter hr)))

theorem local_chain (ending : Blind n ends) (blind : Blind n separates) (hs : Local 0 n separator)
    (h : Local 1 n item) : Local 0 n (chain ends separates separator item) := by
  refine Local.loop (F := chainUpTo ends separates separator item) (t := (· + 1))
    (fun hi hj => (steps_chainUpTo hs h).run_eq (k := 0) nofun hi hj) fun turns => ?_
  induction turns with
  | zero => exact local_pure []
  | succ turns ih =>
    exact Local.ahead ending fun _ => .ite (local_pure [])
      (h.append (.maybe blind (hs.append ih))).free

theorem steps_separatedUpTo (hs : Local 0 n separator) (h : Local 1 n item) :
    Steps (separatedUpTo ends separator item) := by
  intro i j z later
  refine run_ahead_congr fun _ => run_ite_congr rfl (run_bind_congr fun hr => ?_)
  refine run_ahead_congr fun _ => run_ite_congr rfl (run_bind_congr fun hs' => ?_)
  exact run_bind_congr_left (later _ ((hs.noLonger hs').trans_lt (h.shorter hr)))

theorem local_separated (ending : Blind n ends) (hs : Local 0 n separator) (h : Local 1 n item) :
    Local 0 n (separated ends separator item) := by
  refine Local.loop (F := separatedUpTo ends separator item) (t := (· + 1))
    (fun hi hj => (steps_separatedUpTo hs h).run_eq (k := 0) nofun hi hj) fun turns => ?_
  induction turns with
  | zero => exact local_pure []
  | succ turns ih =>
    refine Local.ahead ending fun _ => .ite (local_pure []) (h.bind (l := 0) fun first => ?_).free
    exact Local.ahead ending fun _ => .ite (local_pure first)
      (hs.bind fun _ => ih.bind fun _ => local_pure _)

end Loops

section Listed

variable {ends : Look} {item : Rule α}

theorem steps_listedUpTo (h : Local 1 n item) : Steps (listedUpTo ends item) := by
  intro i j z later
  refine run_ahead_congr fun _ => run_ite_congr rfl (run_bind_congr fun hr => ?_)
  refine run_ahead_congr fun _ => run_ite_congr rfl (run_bind_congr fun hs => ?_)
  have comma := (local_op (n := 0) (s := ",") (by decide)).shorter hs
  exact run_bind_congr_left (later _ (comma.trans (h.shorter hr)))

theorem local_listed (ending : Blind n ends) (h : Local 1 n item) :
    Local 0 n (listed ends item) := by
  refine Local.loop (F := listedUpTo ends item) (t := (· + 1))
    (fun hi hj => (steps_listedUpTo h).run_eq (k := 0) nofun hi hj) fun turns => ?_
  induction turns with
  | zero => exact local_pure _
  | succ turns ih =>
    refine Local.ahead ending fun _ => .ite (local_pure _) (h.bind (l := 0) fun first => ?_).free
    refine Local.ahead ending fun _ => .ite (local_pure _) ?_
    exact ((local_op (by decide)).bind (l := 0) fun _ => ih.bind fun _ => local_pure _).free

end Listed

end Rule
end Concretize.Code
