import Concretize.Code.Grammar
import Mathlib.Data.Bool.AllAny
import Mathlib.Data.List.TakeDrop
import Mathlib.Data.List.TakeWhile

/-!
# Names in texts

A text is read as a list of tokens. Blanks and comments are skipped, so that many texts spell one
name, but among the texts without them (`Lexing.Solid`) a name has one spelling.

* `Text.Reader.run_bind_eq_some`: runs of readers and rules, taken apart.
* `Lexing.tokens_cases`: what a text without a blank or a comment at its front begins with.
* `eq_of_reads_name`: a solid text that spells a name is the name.
-/
namespace Concretize

/-! ## Runs of readers -/

namespace Text.Reader

variable {α β : Type} {cs rest : List Char}

theorem run_bind_eq_some {σ : Type} {x : StateT σ Option α} {f : α → StateT σ Option β} {s : σ}
    {r : β × σ} :
    (x >>= f).run s = some r ↔ ∃ a mid, x.run s = some (a, mid) ∧ (f a).run mid = some r := by
  rw [StateT.run_bind, Option.bind_eq_bind, Option.bind_eq_some_iff]
  simp only [Prod.exists]

theorem run_pure_eq_some {σ : Type} {a b : α} {s s' : σ} :
    (pure a : StateT σ Option α).run s = some (b, s') ↔ a = b ∧ s = s' := by
  simp [StateT.run_pure]

theorem run_orElse (x y : Reader α) : (x <|> y).run cs = (x.run cs <|> y.run cs) := rfl

theorem run_orElse_of_some {x y : Reader α} {r : α × List Char} (h : x.run cs = some r) :
    (x <|> y).run cs = some r := by
  rw [run_orElse, h]
  rfl

theorem run_orElse_of_none {x y : Reader α} (h : x.run cs = none) :
    (x <|> y).run cs = y.run cs := by
  rw [run_orElse, h]
  rfl

theorem of_run_orElse {x y : Reader α} {r : α × List Char} (h : (x <|> y).run cs = some r) :
    x.run cs = some r ∨ y.run cs = some r := by
  rw [run_orElse] at h
  cases hx : x.run cs with
  | none => exact .inr (by rwa [hx] at h)
  | some r' => exact .inl (by rwa [hx] at h)

theorem run_one (p : Char → Bool) (c : Char) :
    (one p).run (c :: cs) = if p c then some (c, cs) else none := by
  change (if p c then _ else _ : Reader Char).run cs = _
  split <;> rfl

theorem eq_cons_of_one {p : Char → Bool} {c : Char} (h : (one p).run cs = some (c, rest)) :
    cs = c :: rest := by
  cases cs with
  | nil => cases h
  | cons d cs =>
    rw [run_one] at h
    split at h <;> cases h
    rfl

theorem of_run_one {p : Char → Bool} {c : Char} (h : (one p).run cs = some (c, rest)) : p c := by
  obtain rfl := eq_cons_of_one h
  rw [run_one] at h
  split at h
  · assumption
  · cases h

theorem eq_cons_of_char {c : Char} {u : Unit} (h : (char c).run cs = some (u, rest)) :
    cs = c :: rest := by
  simp only [char, run_bind_eq_some, run_pure_eq_some] at h
  obtain ⟨d, mid, first, -, rfl⟩ := h
  rw [eq_cons_of_one first, of_decide_eq_true (of_run_one first)]

theorem run_char (c d : Char) :
    (char c).run (d :: cs) = if d = c then some ((), cs) else none := by
  simp only [char, StateT.run_bind, run_one, decide_eq_true_eq]
  split <;> rfl

theorem run_many (p : Char → Bool) : (many p).run cs = some (cs.span p) := by
  simp [many]

theorem run_comes (front : List Char) : (comes front).run cs = some (front.isPrefixOf cs, cs) := by
  simp [comes]

theorem run_accept (front : List Char) : (accept front).run cs =
    some (if front.isPrefixOf cs then (true, cs.drop front.length) else (false, cs)) := by
  change (if front.isPrefixOf cs then _ else _ : Reader Bool).run cs = _
  split <;> rfl

theorem cases_of_accept {front : List Char} {b : Bool}
    (h : (accept front).run cs = some (b, rest)) :
    (b = true ∧ cs = front ++ rest) ∨ (b = false ∧ rest = cs) := by
  rw [run_accept, Option.some_inj] at h
  split at h <;> cases h
  · next mark =>
    obtain ⟨behind, rfl⟩ := List.isPrefixOf_iff_prefix.1 mark
    exact .inl ⟨rfl, by rw [List.drop_left]⟩
  · exact .inr ⟨rfl, rfl⟩

theorem run_chars (front : List Char) : (chars front).run cs =
    if front.isPrefixOf cs then some ((), cs.drop front.length) else none := by
  change (if front.isPrefixOf cs then _ else _ : Reader Unit).run cs = _
  split <;> rfl

theorem eq_append_of_chars {front : List Char} {u : Unit}
    (h : (chars front).run cs = some (u, rest)) : cs = front ++ rest := by
  rw [run_chars] at h
  split at h
  · next mark =>
    obtain ⟨behind, rfl⟩ := List.isPrefixOf_iff_prefix.1 mark
    cases h
    rw [List.drop_left]
  · cases h

theorem run_taken {r : Reader α} : (taken r).run cs =
    (r.run cs).map fun (_, rest) => (cs.take (cs.length - rest.length), rest) := by
  simp only [taken, StateT.run_bind, StateT.run_get, Option.pure_def, Option.bind_eq_bind,
    Option.bind_some]
  cases r.run cs <;> rfl

theorem run_check (b : Bool) : (check b).run cs = if b then some ((), cs) else none := by
  cases b <;> rfl

theorem eq_nil_of_ended {u : Unit} (h : ended.run cs = some (u, rest)) : cs = [] := by
  cases cs with
  | nil => rfl
  | cons c cs => cases h

theorem run_peek : peek.run cs = some (cs.head?, cs) := by
  simp [peek]

theorem repeated_of_refused {item : Reader (List α)} (h : item.run cs = none) :
    (repeated item).run cs = some ([], cs) := by
  have none_taken : ∀ n, (repeatedUpTo item n).run cs = some ([], cs) := by
    rintro (_ | n)
    · rfl
    · rw [repeatedUpTo, run_orElse, StateT.run_bind, h]
      rfl
  exact none_taken cs.length

end Text.Reader

namespace Code.Lexing

open Text Text.Reader

/-- A character that no blank and no comment begins with. -/
def Solid (c : Char) : Prop := isBlank c = false ∧ c ≠ '/' ∧ c ≠ '\uFEFF'

instance : DecidablePred Solid := fun _ => inferInstanceAs (Decidable (_ ∧ _))

/-- The text begins neither with a blank nor with a comment. -/
structure Begins (cs : List Char) : Prop where
  bare : ∀ c ∈ cs.head?, isBlank c = false
  line : ¬ ['/', '/'] <+: cs
  block : ¬ ['/', '*'] <+: cs

variable {cs rest : List Char}

section Begins
variable (h : Begins cs)
include h

theorem isPrefixOf_line (front : List Char) : ('/' :: '/' :: front).isPrefixOf cs = false := by
  rw [← Bool.not_eq_true, List.isPrefixOf_iff_prefix]
  exact fun mark => h.line ((List.prefix_append ['/', '/'] front).trans mark)

theorem isPrefixOf_block (front : List Char) : ('/' :: '*' :: front).isPrefixOf cs = false := by
  rw [← Bool.not_eq_true, List.isPrefixOf_iff_prefix]
  exact fun mark => h.block ((List.prefix_append ['/', '*'] front).trans mark)

theorem comes_line (front : List Char) :
    (comes ('/' :: '/' :: front)).run cs = some (false, cs) := by
  rw [run_comes, isPrefixOf_line h]

theorem comes_block (front : List Char) :
    (comes ('/' :: '*' :: front)).run cs = some (false, cs) := by
  rw [run_comes, isPrefixOf_block h]

theorem documents_eq : documents.run cs = some (false, cs) := by
  simp [documents, comes_line h, comes_block h]

theorem comment_eq : comment.run cs = none := by
  have line : (accept ['/', '/']).run cs = some (false, cs) := by
    rw [run_accept, isPrefixOf_line h]
    rfl
  have block : (chars ['/', '*']).run cs = none := by
    rw [run_chars, isPrefixOf_block h]
    rfl
  simp [comment, Lexing.block, documents_eq h, line, block, run_check]

theorem docComment_eq : docComment.run cs = none := by
  simp [docComment, documents_eq h, run_check]

theorem one_isBlank_eq : (one isBlank).run cs = none := by
  cases cs with
  | nil => rfl
  | cons c cs => rw [run_one, h.bare c rfl]; rfl

theorem skipBlank_eq : skipBlank.run cs = some ((), cs) := by
  have refused : ((do let _ ← one isBlank; return []) <|> (do comment; return []) :
      Reader (List Unit)).run cs = none := by
    simp [one_isBlank_eq h, comment_eq h]
  rw [skipBlank, StateT.run_bind, repeated_of_refused refused]
  rfl

end Begins

theorem run_punct_ne_word {w : String} : punct.run cs ≠ some (.word w, rest) := by
  intro h
  simp only [punct, run_bind_eq_some] at h
  obtain ⟨c, mid, -, text, mid', -, h⟩ := h
  split at h
  · simp only [run_bind_eq_some, run_pure_eq_some, reduceCtorEq, false_and, and_false,
      exists_false] at h
  · simp only [run_pure_eq_some, reduceCtorEq, false_and] at h

theorem word_of_leaf {w : String} (h : leaf.run cs = some (.word w, rest)) :
    word.run cs = some (.word w, rest) := by
  rcases of_run_orElse h with literal | h
  · simp only [run_bind_eq_some, run_pure_eq_some, reduceCtorEq, false_and, and_false,
      exists_false] at literal
  · exact (of_run_orElse h).resolve_left run_punct_ne_word

/-- A name: a character that can begin one, and any number that can go on with it. -/
def IsName (cs : List Char) : Prop :=
  ∃ c more, cs = c :: more ∧ isNameStart c ∧ ∀ d ∈ more, isNameContinue d

theorem isName_cons_iff {c : Char} : IsName (c :: cs) ↔
    isNameStart c ∧ cs.all isNameContinue := by
  rw [List.all_eq_true]
  refine ⟨?_, fun h => ⟨c, cs, rfl, h⟩⟩
  rintro ⟨_, _, ⟨⟩, h⟩
  exact h

instance : DecidablePred IsName
  | [] => .isFalse nofun
  | _ :: _ => decidable_of_iff' _ isName_cons_iff

/-- The characters of a word. -/
inductive IsWord : List Char → Prop where
  | plain {name : List Char} (h : IsName name) : IsWord name
  | raw {name : List Char} (h : IsName name) (free : String.ofList name ∉ neverRaw) :
      IsWord ('r' :: '#' :: name)

theorem of_run_name {text : List Char} (h : name.run cs = some (text, rest)) :
    IsName text ∧ cs = text ++ rest := by
  simp only [name, run_bind_eq_some, run_many, run_pure_eq_some, Option.some_inj] at h
  obtain ⟨c, mid, first, more, mid', spanned, rfl, rfl⟩ := h
  rw [List.span_eq_takeWhile_dropWhile, Prod.mk.injEq] at spanned
  have continues : ∀ d ∈ more, isNameContinue d := by
    intro d hd
    rw [← spanned.1] at hd
    exact List.mem_takeWhile_imp hd
  refine ⟨⟨c, more, rfl, of_run_one first, continues⟩, ?_⟩
  rw [eq_cons_of_one first, ← spanned.1, ← spanned.2, List.cons_append,
    List.takeWhile_append_dropWhile]

theorem of_run_anyName {text : List Char} (h : anyName.run cs = some (text, rest)) :
    IsWord text ∧ cs = text ++ rest := by
  simp only [anyName, run_bind_eq_some] at h
  obtain ⟨raw, mid, accepted, h⟩ := h
  rcases cases_of_accept accepted with ⟨rfl, rfl⟩ | ⟨rfl, rfl⟩
  · simp only [if_true, run_bind_eq_some, run_pure_eq_some] at h
    obtain ⟨text', mid, named, _, mid', checked, rfl, rfl⟩ := h
    obtain ⟨name, rfl⟩ := of_run_name named
    rw [run_check] at checked
    split at checked
    · next free =>
      cases checked
      exact ⟨.raw name (by simpa using free), by simp⟩
    · cases checked
  · obtain ⟨name, rfl⟩ := of_run_name h
    exact ⟨.plain name, rfl⟩

theorem of_run_word {t : Token} (h : word.run cs = some (t, rest)) :
    ∃ text, t = .word (String.ofList text) ∧ IsWord text ∧ cs = text ++ rest := by
  simp only [word, run_bind_eq_some, run_pure_eq_some, run_check] at h
  obtain ⟨_, mid, got, _, mid', checked, text, mid'', named, rfl, rfl⟩ := h
  cases got
  split at checked <;> cases checked
  exact ⟨text, rfl, of_run_anyName named⟩

/-! ## A text of one name -/

theorem eq_group_of_enclosed {inner : Reader Code} {d : Delimiter} {opening closing : Char}
    {code : Code} (h : (enclosed inner d opening closing).run cs = some (code, rest)) :
    ∃ tokens, code = [.group d tokens] := by
  simp only [enclosed, run_bind_eq_some, run_pure_eq_some] at h
  obtain ⟨_, _, -, tokens, _, -, _, _, -, rfl, -⟩ := h
  exact ⟨tokens, rfl⟩

/-- What begins neither with a blank nor with a comment is the end, a closing bracket, or a token.
-/
theorem tokens_cases {n : Nat} {code : Code} (begins : Begins cs)
    (h : (tokens (n + 1)).run cs = some (code, rest)) :
    (code = [] ∧ rest = cs) ∨ ∃ t mid more, code = t :: more ∧
      (tokens n).run mid = some (more, rest) ∧
      ∀ w, t = .word w → word.run cs = some (.word w, mid) := by
  simp only [tokens, StateT.run_bind, skipBlank_eq begins, run_peek, Option.bind_eq_bind,
    Option.bind_some] at h
  split at h
  · simp only [run_pure_eq_some] at h
    exact .inl ⟨h.1.symm, h.2.symm⟩
  split at h
  · simp only [run_pure_eq_some] at h
    exact .inl ⟨h.1.symm, h.2.symm⟩
  simp only [run_bind_eq_some, run_pure_eq_some] at h
  obtain ⟨first, mid, piece, more, mid', others, rfl, rfl⟩ := h
  have group {d : Delimiter} (h : ∃ inner, first = [.group d inner]) :
      ∃ t, first = [t] ∧ ∀ w, t = .word w → word.run cs = some (.word w, mid) := by
    obtain ⟨inner, rfl⟩ := h
    exact ⟨_, rfl, nofun⟩
  have single : ∃ t, first = [t] ∧ ∀ w, t = .word w → word.run cs = some (.word w, mid) := by
    rcases of_run_orElse piece with doc | piece
    · rw [docComment_eq begins] at doc
      cases doc
    rcases of_run_orElse piece with single | piece
    · simp only [run_bind_eq_some, run_pure_eq_some] at single
      obtain ⟨t, mid', taken, rfl, rfl⟩ := single
      exact ⟨t, rfl, fun w word => word_of_leaf (word ▸ taken)⟩
    rcases of_run_orElse piece with round | piece
    · exact group (eq_group_of_enclosed round)
    rcases of_run_orElse piece with square | curly
    · exact group (eq_group_of_enclosed square)
    · exact group (eq_group_of_enclosed curly)
  obtain ⟨t, rfl, taken⟩ := single
  exact .inr ⟨t, mid, more, rfl, others, taken⟩

section Solid
variable {n : Nat} (solid : ∀ c ∈ cs, Solid c)
include solid

theorem begins_of_solid : Begins cs where
  bare c hc := (solid c (List.mem_of_mem_head? hc)).1
  line mark := (solid '/' (mark.subset List.mem_cons_self)).2.1 rfl
  block mark := (solid '/' (mark.subset List.mem_cons_self)).2.1 rfl

theorem eq_of_tokens_nil (h : (tokens n).run cs = some ([], rest)) : rest = cs := by
  cases n with
  | zero => exact (run_pure_eq_some.1 h).2.symm
  | succ n =>
    rcases tokens_cases (begins_of_solid solid) h with ⟨-, same⟩ | ⟨t, mid, more, some, -⟩
    · exact same
    · cases some

theorem eq_append_of_tokens_word {w : String} (h : (tokens n).run cs = some ([.word w], rest)) :
    cs = w.toList ++ rest := by
  cases n with
  | zero => cases (run_pure_eq_some.1 h).1
  | succ n =>
    rcases tokens_cases (begins_of_solid solid) h with
      ⟨none, -⟩ | ⟨t, mid, more, one, others, taken⟩
    · cases none
    · cases one
      obtain ⟨text, same, -, front⟩ := of_run_word (taken w rfl)
      obtain rfl := Token.word.inj same
      have behind : ∀ c ∈ mid, Solid c := fun c hc => solid c (front ▸ List.mem_append_right _ hc)
      rw [eq_of_tokens_nil behind others, front, String.toList_ofList]

end Solid

end Code.Lexing

namespace Code

open Lexing Text.Reader

theorem of_run_expect {p : Look} {code rest : Code} {u : Unit}
    (h : (Rule.expect p).run code = some (u, rest)) : p code ∧ rest = code := by
  change (if p code then _ else _ : Rule Unit).run code = _ at h
  split at h
  · next found => exact ⟨found, (run_pure_eq_some.1 h).2.symm⟩
  · cases h

theorem eq_cons_of_anyWord {code rest : Code} {w : String}
    (h : Rule.anyWord.run code = some (w, rest)) : code = .word w :: rest := by
  simp only [Rule.anyWord, run_bind_eq_some] at h
  obtain ⟨ahead, mid, got, h⟩ := h
  cases got
  split at h
  · next text rest' =>
    simp only [run_bind_eq_some, run_pure_eq_some] at h
    obtain ⟨_, mid, put, rfl, rfl⟩ := h
    cases put
    rfl
  · cases h

theorem eq_of_nameOf? {code : Code} {w : String} (h : nameOf? code = some w) :
    code = [.word w] := by
  unfold nameOf? Rule.whole? at h
  split at h
  · next name taken =>
    cases h
    simp only [Rule.name, run_bind_eq_some] at taken
    obtain ⟨_, mid, expected, taken⟩ := taken
    rw [← (of_run_expect expected).2, eq_cons_of_anyWord taken]
  · cases h

/-- A text without blanks and comments that spells a name is that name. -/
theorem eq_of_reads_name {text w : String} (solid : ∀ c ∈ text.toList, Solid c)
    (h : (ofText? text).bind nameOf? = some w) : w = text := by
  obtain ⟨code, read, named⟩ := Option.bind_eq_some_iff.1 h
  have unmarked : text.toList.head? ≠ some '\uFEFF' :=
    fun mark => (solid _ (List.mem_of_mem_head? mark)).2.2 rfl
  rw [eq_of_nameOf? named] at read
  simp only [ofText?, unmarked, if_false, readAll] at read
  split at read
  · next code' rest taken =>
    cases read
    simp only [run_bind_eq_some, run_pure_eq_some] at taken
    obtain ⟨_, mid, tokens, _, _, ended, rfl, rfl⟩ := taken
    have whole := eq_append_of_tokens_word solid tokens
    rw [eq_nil_of_ended ended, List.append_nil] at whole
    exact String.toList_inj.1 whole.symm
  · cases read

end Code

end Concretize
