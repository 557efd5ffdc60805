import Concretize.Proofs.Leaf

/-!
# Code in standard spacing

`Spells` says that a text is read as code, in whatever number of turns is enough for it. It is built
token by token, from the end of the code to its front.

* `spells_leaf`, `spells_group`: one token or one group in front of code.
* `Sound`: code whose tokens are as they are read, each joined to the next one where it says so.
* `ofText?_text`: sound code is read back from its text.
-/
namespace Concretize.Code.Lexing

open Text Text.Reader

variable {cs rest : List Char}

/-! ## Texts that are read as code -/

/-- A text is read as code up to a rest, in turns enough for its characters. -/
def Spells (cs : List Char) (code : Code) (rest : List Char) : Prop :=
  ∀ n, cs.length < n → (tokens n).run cs = some (code, rest)

theorem begins_of_isClosing (h : ∀ c ∈ cs.head?, IsClosing c) : Begins cs := by
  cases cs with
  | nil => exact ⟨nofun, nofun, nofun⟩
  | cons c cs =>
    rcases h c rfl with rfl | rfl | rfl <;> exact begins_of_head (by decide) (by decide)

/-- At the end or at a closing bracket there is no code. -/
theorem spells_end (h : ∀ c ∈ rest.head?, IsClosing c) : Spells rest [] rest := by
  rintro (_ | n) large
  · cases large
  rw [tokens, StateT.run_bind, skipBlank_eq (begins_of_isClosing h)]
  cases rest with
  | nil => rfl
  | cons c cs =>
    rcases h c rfl with rfl | rfl | rfl <;> rfl

theorem spells_nil : Spells [] [] [] := spells_end nofun

theorem repeatedUpTo_isSome {α : Type} (item : Reader (List α)) (n : Nat) (cs : List Char) :
    ((repeatedUpTo item n).run cs).isSome := by
  cases n with
  | zero => rfl
  | succ n =>
    rw [repeatedUpTo, run_orElse]
    cases ((do let a ← item; return a ++ (← repeatedUpTo item n)) : Reader (List α)).run cs <;> rfl

/-- An item that is taken leaves the others to the remaining turns. -/
theorem repeatedUpTo_succ {α : Type} {item : Reader (List α)} {n : Nat} {a : List α}
    (h : item.run cs = some (a, rest)) : (repeatedUpTo item (n + 1)).run cs =
      ((repeatedUpTo item n).run rest).map fun r => (a ++ r.1, r.2) := by
  obtain ⟨⟨others, behind⟩, more⟩ :=
    Option.isSome_iff_exists.1 (repeatedUpTo_isSome item n rest)
  rw [repeatedUpTo, run_orElse, StateT.run_bind, h, Option.bind_eq_bind, Option.bind_some,
    StateT.run_bind, more]
  rfl

theorem skipBlank_space : skipBlank.run (' ' :: cs) = skipBlank.run cs := by
  let item : Reader (List Unit) :=
    (do let _ ← one isBlank; return []) <|> (do comment; return [])
  have space : item.run (' ' :: cs) = some ([], cs) := rfl
  have repeated : (repeated item).run (' ' :: cs) = (repeated item).run cs := by
    change (repeatedUpTo item (cs.length + 1)).run (' ' :: cs) =
      (repeatedUpTo item cs.length).run cs
    rw [repeatedUpTo_succ space]
    exact Option.map_id'
  change (do let _ ← Reader.repeated item; return () : Reader Unit).run _ = _
  rw [StateT.run_bind, repeated]
  rfl

theorem spells_space {code : Code} (h : Spells cs code rest) : Spells (' ' :: cs) code rest := by
  rintro (_ | n) large
  · cases large
  have same := h (n + 1) (by simp only [List.length_cons] at large; omega)
  rw [tokens, StateT.run_bind] at same ⊢
  rwa [skipBlank_space]

section Pieces
variable {c : Char} {mid : List Char} {code : Code}

theorem tokens_succ {n : Nat} {first : Code} (begins : Begins (c :: cs)) (opens : ¬ IsClosing c)
    (taken : ((do return [← leaf]) <|> enclosed (tokens n) .round '(' ')' <|>
      enclosed (tokens n) .square '[' ']' <|> enclosed (tokens n) .curly '\x7b' '\x7d' :
      Reader Code).run (c :: cs) = some (first, mid)) :
    (tokens (n + 1)).run (c :: cs) =
      ((tokens n).run mid).map fun r => (first ++ r.1, r.2) := by
  have open' : (c = ')' || c = ']' || c = '\x7d') = false := by
    simpa [IsClosing, and_assoc] using opens
  rw [tokens, StateT.run_bind, skipBlank_eq begins]
  simp only [Option.bind_eq_bind, Option.bind_some, StateT.run_bind, run_peek, List.head?_cons,
    open', Bool.false_eq_true, if_false]
  rw [run_orElse_of_none (docComment_eq begins), taken, Option.bind_some]
  cases (tokens n).run mid <;> rfl

/-- A token without brackets, and the code after it. -/
theorem spells_leaf {t : Token} (begins : Begins (c :: cs)) (opens : ¬ IsClosing c)
    (taken : leaf.run (c :: cs) = some (t, mid)) (shorter : mid.length ≤ cs.length)
    (h : Spells mid code rest) : Spells (c :: cs) (t :: code) rest := by
  rintro (_ | n) large
  · cases large
  rw [List.length_cons] at large
  have single : (do return [← leaf] : Reader Code).run (c :: cs) = some ([t], mid) := by
    rw [StateT.run_bind, taken]
    rfl
  rw [tokens_succ begins opens (run_orElse_of_some single), h n (by omega)]
  rfl

theorem run_enclosed {inner : Reader Code} {d : Delimiter} {inside : Code}
    (h : inner.run cs = some (inside, closing d :: mid)) :
    (enclosed inner d (opening d) (closing d)).run (opening d :: cs) =
      some ([.group d inside], mid) := by
  have first : (char (opening d)).run (opening d :: cs) = some ((), cs) := by
    rw [run_char, if_pos rfl]
  have last : (char (closing d)).run (closing d :: mid) = some ((), mid) := by
    rw [run_char, if_pos rfl]
  simp [enclosed, first, h, last]

theorem run_enclosed_of_ne {inner : Reader Code} {d e : Delimiter} (h : d ≠ e) :
    (enclosed inner d (opening d) (closing d)).run (opening e :: cs) = none := by
  have first : (char (opening d)).run (opening e :: cs) = none := by
    rw [run_char, if_neg (by cases d <;> cases e <;> simp_all [opening])]
  simp [enclosed, first]

/-- A group, and the code after it. -/
theorem spells_group {d : Delimiter} {inner : Code} (refused : leaf.run (opening d :: cs) = none)
    (within : Spells cs inner (closing d :: mid)) (shorter : mid.length < cs.length)
    (h : Spells mid code rest) : Spells (opening d :: cs) (.group d inner :: code) rest := by
  rintro (_ | n) large
  · cases large
  rw [List.length_cons] at large
  have begins : Begins (opening d :: cs) := by
    cases d <;> exact begins_of_head (by decide) (by decide)
  have opens : ¬ IsClosing (opening d) := by cases d <;> decide
  have inside := within n (by omega)
  have other {e : Delimiter} (different : e ≠ d) :
      (enclosed (tokens n) e (opening e) (closing e)).run (opening d :: cs) = none :=
    run_enclosed_of_ne different
  have piece : (enclosed (tokens n) .round '(' ')' <|> enclosed (tokens n) .square '[' ']' <|>
      enclosed (tokens n) .curly '\x7b' '\x7d' : Reader Code).run (opening d :: cs) =
      some ([.group d inner], mid) := by
    cases d with
    | round => exact run_orElse_of_some (run_enclosed inside)
    | square =>
      exact (run_orElse_of_none (other (e := .round) nofun)).trans
        (run_orElse_of_some (run_enclosed inside))
    | curly =>
      exact (run_orElse_of_none (other (e := .round) nofun)).trans
        ((run_orElse_of_none (other (e := .square) nofun)).trans (run_enclosed inside))
  have single : (do return [← leaf] : Reader Code).run (opening d :: cs) = none := by
    rw [StateT.run_bind, refused]
    rfl
  rw [tokens_succ begins opens ((run_orElse_of_none single).trans piece), h n (by omega)]
  rfl

end Pieces

/-! ## Tokens in front of code -/

section Kinds
variable {mid text : List Char} {code : Code}

theorem spells_word (h : IsWord text) (apart : Apart mid) (next : Spells mid code rest) :
    Spells (text ++ mid) (.word (String.ofList text) :: code) rest := by
  have taken := run_leaf_word h apart
  obtain ⟨c, more, rfl, start⟩ := h.front
  obtain ⟨begins, opens⟩ := solid_of_isNameStart start
  exact spells_leaf begins opens.1 taken (by simp) next

theorem spells_literal (taken : Literal.read.run (text ++ mid) = some (text, mid))
    (written : text ≠ []) (next : Spells mid code rest) :
    Spells (text ++ mid) (.literal (String.ofList text) :: code) rest := by
  have leaf_taken : leaf.run (text ++ mid) = some (.literal (String.ofList text), mid) := by
    refine run_orElse_of_some ?_
    rw [StateT.run_bind, taken]
    rfl
  obtain ⟨c, more, rfl⟩ := List.exists_cons_of_ne_nil written
  obtain ⟨begins, opens⟩ := solid_of_literalFront (literalFront_of_read taken)
  exact spells_leaf begins opens.1 leaf_taken (by simp) next

/-- A character of an operator, which does not open a comment. -/
theorem spells_punct {c : Char} {joint : Bool} (known : c ∈ punctuation) (other : c ≠ '\'')
    (begins : Begins (c :: mid)) (joined : (punctChar.run mid).isSome = joint)
    (next : Spells mid code rest) : Spells (c :: mid) (.punct c joint :: code) rest := by
  have taken : leaf.run (c :: mid) = some (.punct c joint, mid) :=
    run_leaf_punct known other begins joined
  exact spells_leaf begins (opens_of_mem_punctuation known).1 taken le_rfl next

theorem spells_quote (plain : ¬ LiteralFront ('\'' :: cs))
    (named : lifetimeName.run cs = some ((), mid)) (next : Spells cs code rest) :
    Spells ('\'' :: cs) (.punct '\'' true :: code) rest := by
  have begins : Begins ('\'' :: cs) := begins_of_head (by decide) (by decide)
  exact spells_leaf begins (by decide) (run_leaf_quote plain named) le_rfl next

end Kinds

/-! ## Sound code -/

/-- What follows a token that is not joined to the next one. -/
def Closed (cs : List Char) : Prop := ∀ c ∈ cs.head?, c = ' ' ∨ IsClosing c

/-- A literal: wherever it is not joined to what follows, it is read as it stands. -/
def IsLiteral (text : List Char) : Prop :=
  ∀ rest, Closed rest → Literal.read.run (text ++ rest) = some (text, rest)

/-- Code whose tokens are as they are read: words, literals and characters of operators, of which
each is joined to what follows where it says so. A quote is joined to the name of a lifetime. -/
inductive Sound : Code → Prop where
  | nil : Sound []
  | word {w : String} {code : Code} (h : IsWord w.toList) (more : Sound code) :
      Sound (.word w :: code)
  | literal {l : String} {code : Code} (h : IsLiteral l.toList) (more : Sound code) :
      Sound (.literal l :: code)
  | group {d : Delimiter} {inner code : Code} (inside : Sound inner) (more : Sound code) :
      Sound (.group d inner :: code)
  | lifetime {t : Token} {code : Code} (named : NamesLifetime t) (more : Sound (t :: code)) :
      Sound (.punct '\'' true :: t :: code)
  | single {c : Char} {code : Code} (known : c ∈ punctuation) (other : c ≠ '\'')
      (more : Sound code) : Sound (.punct c false :: code)
  | joint {c d : Char} {t : Token} {code : Code} (known : c ∈ punctuation) (other : c ≠ '\'')
      (first : d ∈ t.text.toList.head?) (joined : d ∈ punctuation)
      (open' : c = '/' → d ≠ '/' ∧ d ≠ '*') (more : Sound (t :: code)) :
      Sound (.punct c true :: t :: code)

theorem closed_nil : Closed [] := nofun

theorem Closed.apart (h : Closed cs) : Apart cs := by
  intro c hc
  rcases h c hc with rfl | rfl | rfl | rfl <;> decide

theorem Closed.not_mem_punctuation (h : Closed cs) : ∀ c ∈ cs.head?, c ∉ punctuation := by
  intro c hc
  rcases h c hc with rfl | rfl | rfl | rfl <;> decide

theorem IsLiteral.ne_nil {text : List Char} (h : IsLiteral text) : text ≠ [] := by
  simpa using (literalFront_of_read (h [] closed_nil)).ne_nil

theorem closed_space : Closed (' ' :: cs) := fun _ hc => .inl (Option.some.inj hc).symm

theorem closed_closing (d : Delimiter) : Closed (closing d :: cs) := by
  intro c hc
  cases hc
  cases d <;> simp [closing, IsClosing]

/-- What stands behind a token: the code after it, at a distance or joined, and what follows. -/
def behind (t : Token) (code : Code) (after : List Char) : List Char :=
  match code with
  | [] => after
  | _ :: _ => t.gap.toList ++ (code.text.toList ++ after)

section Behind
variable {t : Token} {code : Code} {after : List Char}

theorem text_cons :
    (Code.text (t :: code)).toList ++ after = t.text.toList ++ behind t code after := by
  cases code with
  | nil => rfl
  | cons u code => simp [Code.text, Token.listText, behind]

theorem closed_behind (gap : t.gap = " ") (closed : Closed after) :
    Closed (behind t code after) := by
  cases code with
  | nil => exact closed
  | cons u code =>
    rw [behind, gap]
    exact closed_space

/-- Behind a joined character comes the code after it. -/
theorem behind_joint {c : Char} :
    behind (.punct c true) (t :: code) after = (Code.text (t :: code)).toList ++ after := rfl

theorem spells_behind (gap : t.gap = " ") (h : Spells (code.text.toList ++ after) code rest) :
    Spells (behind t code after) code rest := by
  cases code with
  | nil => exact h
  | cons u code =>
    rw [behind, gap]
    exact spells_space h

end Behind

/-- What stands between the brackets of a group. -/
def within (d : Delimiter) (inner : Code) : List Char :=
  match d with
  | .curly => if inner.text.isEmpty then [' '] else ' ' :: (inner.text.toList ++ [' '])
  | _ => inner.text.toList

theorem text_group {d : Delimiter} {inner : Code} {cs : List Char} :
    (Token.group d inner).text.toList ++ cs = opening d :: (within d inner ++ closing d :: cs) := by
  cases d with
  | curly =>
    cases empty : (Token.listText inner).isEmpty <;>
      simp_all [Token.text, Delimiter.enclose, within, opening, closing, Code.text]
  | _ => simp [Token.text, Delimiter.enclose, within, opening, closing, Code.text]

/-- Code begins neither with a blank nor with a comment, and does not close anything. -/
theorem front_text {t : Token} {code : Code} {after : List Char} (h : Sound (t :: code))
    (closed : Closed after) : Begins ((Code.text (t :: code)).toList ++ after) ∧
      ∀ c ∈ ((Code.text (t :: code)).toList ++ after).head?, Opens c := by
  suffices ∃ c more, (Code.text (t :: code)).toList ++ after = c :: more ∧ Begins (c :: more) ∧
      Opens c by
    obtain ⟨c, more, same, begins, opens⟩ := this
    rw [same]
    exact ⟨begins, fun d hd => Option.some.inj hd ▸ opens⟩
  rw [text_cons]
  cases h with
  | @word w code h more =>
    obtain ⟨c, more, same, start⟩ := h.front
    rw [Token.text, same]
    exact ⟨c, _, rfl, solid_of_isNameStart start⟩
  | @literal l code h more =>
    have apart : Closed (behind (.literal l) code after) := closed_behind rfl closed
    have front := literalFront_of_read (h _ apart)
    obtain ⟨c, more, same⟩ := List.exists_cons_of_ne_nil front.ne_nil
    exact ⟨c, more, same, solid_of_literalFront (same ▸ front)⟩
  | @group d inner code inside more =>
    refine ⟨opening d, _, text_group, ?_⟩
    have plain : isBlank (opening d) = false ∧ opening d ≠ '/' ∧ Opens (opening d) := by
      cases d <;> decide
    exact ⟨begins_of_head plain.1 plain.2.1, plain.2.2⟩
  | lifetime named more => exact ⟨'\'', _, rfl, solid_of_mem_punctuation (by decide) nofun⟩
  | @single c code known other more =>
    refine ⟨c, behind (.punct c false) code after, by simp [Token.text], ?_⟩
    refine solid_of_mem_punctuation known fun _ d hd => ?_
    rcases closed_behind rfl closed d hd with rfl | rfl | rfl | rfl <;> decide
  | @joint c d t code known other first joined open' more =>
    refine ⟨c, behind (.punct c true) (t :: code) after, by simp [Token.text], ?_⟩
    refine solid_of_mem_punctuation known fun slash e he => ?_
    rw [behind_joint, text_cons, List.head?_append, first, Option.some_or] at he
    cases he
    exact open' slash

theorem toList_punct {c : Char} {joint : Bool} {cs : List Char} :
    (Token.punct c joint).text.toList ++ cs = c :: cs := by
  simp [Token.text]

section Within
variable {d : Delimiter} {inner : Code}

/-- What stands in brackets does not make a comment of the first one. -/
theorem not_block_within (h : Sound inner) :
    ¬ ['/', '*'] <+: within d inner ++ closing d :: cs := by
  have empty : ¬ ['/', '*'] <+: closing d :: cs := by cases d <;> simp [closing]
  have plain : ¬ ['/', '*'] <+: inner.text.toList ++ closing d :: cs := by
    cases inner with
    | nil => exact empty
    | cons t inner => exact (front_text h (closed_closing d)).1.block
  cases d with
  | curly =>
    simp only [within]
    split <;> simp
  | _ => exact plain

theorem spells_within (h : ∀ {after rest : List Char}, Closed after → Spells after [] rest →
      Spells (inner.text.toList ++ after) inner rest) :
    Spells (within d inner ++ closing d :: cs) inner (closing d :: cs) := by
  have ends : Spells (closing d :: cs) [] (closing d :: cs) := by
    refine spells_end fun c hc => ?_
    cases hc
    cases d <;> simp [closing, IsClosing]
  have plain := h (closed_closing d) ends
  cases d with
  | curly =>
    simp only [within]
    split
    · next empty =>
      rw [String.isEmpty_iff] at empty
      rw [empty] at plain
      exact spells_space plain
    · have spaced := h closed_space (spells_space ends)
      simpa using spells_space spaced
  | _ => exact plain

end Within

/-- Sound code in standard spacing is read as it is, up to where it ends. -/
theorem spells_text {code : Code} (h : Sound code) {after : List Char} (closed : Closed after)
    (ends : Spells after [] rest) : Spells (code.text.toList ++ after) code rest := by
  induction h generalizing after rest with
  | nil => exact ends
  | @word w code h more ih =>
    have apart : Closed (behind (.word w) code after) := closed_behind rfl closed
    have next := spells_behind (t := .word w) rfl (ih closed ends)
    rw [text_cons, Token.text]
    simpa using spells_word h apart.apart next
  | @literal l code h more ih =>
    have apart : Closed (behind (.literal l) code after) := closed_behind rfl closed
    have next := spells_behind (t := .literal l) rfl (ih closed ends)
    rw [text_cons, Token.text]
    simpa using spells_literal (h _ apart) h.ne_nil next
  | @group d inner code inside more ihInside ih =>
    have next := spells_behind (t := .group d inner) rfl (ih closed ends)
    rw [text_cons, text_group]
    refine spells_group (leaf_opening (not_block_within inside)) ?_ ?_ next
    · exact spells_within fun closed' ends' => ihInside closed' ends'
    · simp only [List.length_append, List.length_cons]
      omega
  | @lifetime t code named more ih =>
    have next := ih closed ends
    rw [text_cons] at next
    rw [text_cons, toList_punct, behind_joint, text_cons]
    cases named with
    | word w =>
      cases more with
      | word h more =>
        have apart : Closed (behind (.word w) code after) := closed_behind rfl closed
        exact spells_quote (not_literalFront_quote h apart.apart)
          (run_lifetimeName h apart.apart) next
    | literal h same =>
      rw [Token.text, same, List.append_assoc, List.cons_append] at next ⊢
      exact spells_quote (not_literalFront_marked h) (run_lifetimeName_marked h) next
  | @single c code known other more ih =>
    have apart : Closed (behind (.punct c false) code after) := closed_behind rfl closed
    have next := spells_behind (t := .punct c false) rfl (ih closed ends)
    have begins := (front_text (.single known other more) closed).1
    rw [text_cons, toList_punct] at begins ⊢
    refine spells_punct known other begins ?_ next
    rw [punctChar_eq_none apart.not_mem_punctuation]
    rfl
  | @joint c d t code known other first joined open' more ih =>
    have next := ih closed ends
    have begins := (front_text (.joint known other first joined open' more) closed).1
    rw [text_cons, toList_punct] at begins ⊢
    refine spells_punct known other begins ?_ next
    have begins' := (front_text more closed).1
    obtain ⟨front, same⟩ := List.head?_eq_some_iff.1 first
    rw [behind_joint]
    rw [text_cons, same, List.cons_append] at begins' ⊢
    rw [run_punctChar joined begins']
    rfl

end Concretize.Code.Lexing

namespace Concretize.Code

open Lexing Text.Reader

theorem ofText?_of_spells {text : String} {code : Code}
    (unmarked : text.toList.head? ≠ some '\uFEFF') (h : Spells text.toList code []) :
    ofText? text = some code := by
  have taken := h (text.toList.length + 1) (Nat.lt_succ_self _)
  simp only [ofText?, unmarked, if_false, readAll, StateT.run_bind, taken]
  rfl

/-- **Standard spacing.** Sound code is read back from its text. -/
theorem ofText?_text {code : Code} (h : Sound code) : ofText? code.text = some code := by
  have spelled := spells_text h closed_nil spells_nil
  rw [List.append_nil] at spelled
  refine ofText?_of_spells ?_ spelled
  cases code with
  | nil => exact nofun
  | cons t code =>
    have opens := (front_text h closed_nil).2
    rw [List.append_nil] at opens
    exact fun mark => (opens _ mark).2 rfl

end Concretize.Code
