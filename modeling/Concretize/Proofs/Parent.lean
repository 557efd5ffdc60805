import Concretize.Proofs.Path
import Concretize.Storage.Tree

/-!
# The way up from a path

`Path.parent?` takes the last component off the text of a path. Storage climbs this way when it makes
missing directories, so what it meets on the way down is decided here.

* `intercalate_pieces`, `pieces_intercalate`: a text is its pieces with slashes between them.
* `dropIdle_eq`: what is left after idle pieces are skipped.
* `IsTrim.parent?`: a path that ends in a component has a parent with a shorter text. One step leads
  down from the parent to the path, apart from steps that go nowhere.
-/
namespace Concretize.Storage

theorem splitChars_eq_splitOn (sep : Char) (cs : List Char) :
    splitChars sep cs = cs.splitOn sep := by
  induction cs with
  | nil => rfl
  | cons c cs ih =>
    simp only [splitChars, ih, List.splitOn, List.splitOnP_cons_eq_if_modifyHead, beq_iff_eq]
    split
    · rfl
    · cases hs : cs.splitOnP (· == sep) with
      | nil => exact absurd hs (List.splitOnP_ne_nil _ _)
      | cons head tail => rfl

namespace Path

variable {p above : Path}

/-! ## Texts and pieces -/

theorem intercalate_pieces (p : Path) : "/".intercalate p.pieces = p.text := by
  have slash : "/".toList = ['/'] := rfl
  rw [← String.toList_inj, String.toList_intercalate, pieces, splitAt, List.map_map, slash,
    splitChars_eq_splitOn]
  simp only [Function.comp_def, String.toList_ofList, List.map_id']
  exact List.intercalate_splitOn '/'

theorem pieces_intercalate {pieces : List String} (h : ∀ piece ∈ pieces, '/' ∉ piece.toList)
    (some_piece : pieces ≠ []) : (⟨"/".intercalate pieces⟩ : Path).pieces = pieces := by
  have slash : "/".toList = ['/'] := rfl
  rw [Path.pieces, splitAt, String.toList_intercalate, slash, splitChars_eq_splitOn,
    List.splitOn_intercalate '/' (by simpa using h) (by simpa using some_piece), List.map_map]
  simp [Function.comp_def]

theorem slash_notMem_piece {piece : String} (h : piece ∈ p.pieces) : '/' ∉ piece.toList :=
  fun hm => (mem_of_mem_splitAt h hm).2 rfl

/-! ## Idle pieces -/

theorem isIdle_iff {piece : String} : isIdle piece = true ↔ piece = "" ∨ piece = "." := by
  simp [isIdle]

theorem dropIdle_cons_cons (piece next : String) (rest : List String) :
    dropIdle (piece :: next :: rest) =
      if isIdle piece then dropIdle (next :: rest) else piece :: next :: rest := rfl

/-- What is skipped is idle. What is left starts with a piece that is not, unless it is the piece
that starts the path. -/
theorem dropIdle_eq {pieces : List String} (h : pieces ≠ []) :
    ∃ idle first rest, pieces = idle ++ dropIdle pieces ∧ (∀ piece ∈ idle, isIdle piece = true) ∧
      dropIdle pieces = first :: rest ∧ (isIdle first = true → rest = []) := by
  induction pieces with
  | nil => exact absurd rfl h
  | cons piece pieces ih =>
    cases pieces with
    | nil => exact ⟨[], piece, [], rfl, nofun, rfl, fun _ => rfl⟩
    | cons next pieces =>
      rw [dropIdle_cons_cons]
      split
      · next hp =>
        obtain ⟨idle, first, rest, split, skipped, left, alone⟩ := ih (List.cons_ne_nil _ _)
        refine ⟨piece :: idle, first, rest, congrArg (piece :: ·) split, ?_, left, alone⟩
        exact List.forall_mem_cons.2 ⟨hp, skipped⟩
      · next hp => exact ⟨[], piece, next :: pieces, rfl, nofun, rfl, fun hi => absurd hi hp⟩

/-- Whether the path goes nowhere from where it starts. -/
def IsIdle (p : Path) : Prop := ∀ step ∈ p.steps, step = "."

/-- Whether the path ends in a piece that says something. -/
def IsTrim (p : Path) : Prop := ∃ front last, p.pieces = front ++ [last] ∧ isIdle last = false

/-! ## Parents -/

/-- `above` is a way up from `p`: its text is a proper beginning, and after it there is one step that
can go anywhere. -/
structure Above (above p : Path) : Prop where
  shape : above.IsIdle ∨ above.IsTrim
  text : ∃ rest, rest ≠ "" ∧ p.text = above.text ++ rest
  steps : ∃ dots last, (∀ step ∈ dots, step = ".") ∧ p.steps = above.steps ++ dots ++ [last]

theorem steps_of_idle {pieces : List String} (h : ∀ piece ∈ pieces, isIdle piece = true) :
    ∀ step ∈ pieces.filter (· ≠ ""), step = "." := by
  intro step hs
  rw [List.mem_filter] at hs
  exact (isIdle_iff.1 (h step hs.1)).resolve_left (by simpa using hs.2)

section Split
variable {kept idle : List String} {last : String} (hp : p.pieces = kept ++ (idle ++ [last]))
  (skipped : ∀ piece ∈ idle, isIdle piece = true)
  (busy : isIdle last = false)
include hp

/-- The text of a path whose pieces fall in two parts. -/
theorem text_of_pieces (some_kept : kept ≠ []) :
    p.text = "/".intercalate kept ++ ("/" ++ "/".intercalate (idle ++ [last])) := by
  rw [← intercalate_pieces, hp, String.intercalate_append_of_ne_nil some_kept (by simp),
    String.append_assoc]

include skipped busy

/-- The kept pieces are a way up if they are written down with the same steps. -/
theorem above_of_pieces (shape : above.IsIdle ∨ above.IsTrim)
    (text : ∃ rest, rest ≠ "" ∧ p.text = above.text ++ rest)
    (steps : above.steps = kept.filter (· ≠ "")) : above.Above p where
  shape := shape
  text := text
  steps := by
    have named : last ≠ "" := fun e => by rw [e] at busy; cases busy
    refine ⟨idle.filter (· ≠ ""), last, steps_of_idle skipped, ?_⟩
    rw [steps, Path.steps, hp, List.filter_append, List.filter_append, List.append_assoc]
    simp [named]

/-- The root is a way up. -/
theorem root_above (root : kept = [""]) : (⟨"/"⟩ : Path).Above p := by
  have no_steps : (⟨"/"⟩ : Path).steps = [] := by decide
  have some_kept : kept ≠ [] := by rw [root]; exact List.cons_ne_nil _ _
  refine above_of_pieces hp skipped busy (.inl (by rw [IsIdle, no_steps]; nofun)) ?_
    (by rw [root]; exact no_steps)
  refine ⟨"/".intercalate (idle ++ [last]), fun e => ?_, ?_⟩
  · have after : (⟨"/".intercalate (idle ++ [last])⟩ : Path).pieces = idle ++ [last] :=
      pieces_intercalate (fun piece h => slash_notMem_piece (hp ▸ List.mem_append_right _ h))
        (by simp)
    have only : (⟨""⟩ : Path).pieces = [""] := rfl
    rw [e, only, eq_comm, List.append_eq_singleton_iff] at after
    rcases after with ⟨-, e⟩ | ⟨-, e⟩
    · rw [List.singleton_inj.1 e] at busy
      cases busy
    · cases e
  · rw [text_of_pieces hp some_kept, root, String.intercalate_singleton, String.empty_append]

/-- The text of the kept pieces is a way up, unless it is empty. -/
theorem kept_above {first : String} {rest : List String} (h : kept = (first :: rest).reverse)
    (alone : isIdle first = true → rest = []) : (⟨"/".intercalate kept⟩ : Path).Above p := by
  have some_kept : kept ≠ [] := by simp [h]
  have pieces : (⟨"/".intercalate kept⟩ : Path).pieces = kept :=
    pieces_intercalate (fun piece h => slash_notMem_piece (hp ▸ List.mem_append_left _ h)) some_kept
  refine above_of_pieces hp skipped busy ?_ ⟨_, ?_, text_of_pieces hp some_kept⟩
    (by rw [steps, pieces])
  · cases hi : isIdle first with
    | true =>
      refine .inl (steps_of_idle ?_)
      rw [pieces, h, alone hi]
      simpa using hi
    | false => exact .inr ⟨rest.reverse, first, by rw [pieces, h, List.reverse_cons], hi⟩
  · simp

end Split

/-- A path that ends in a component has a parent. -/
theorem IsTrim.parent? (h : p.IsTrim) : ∃ above, p.parent? = some above ∧ above.Above p := by
  obtain ⟨front, last, hp, busy⟩ := h
  have named : last ≠ "" := fun e => by rw [e] at busy; cases busy
  have reversed : p.pieces.reverse = last :: front.reverse := by rw [hp, List.reverse_concat]
  rw [Path.parent?, reversed]
  cases hf : front.reverse with
  | nil =>
    rw [List.reverse_eq_nil_iff] at hf
    subst hf
    refine ⟨{}, if_neg named, .inl nofun, ⟨last, named, ?_⟩, [], last, nofun, ?_⟩
    · rw [← intercalate_pieces, hp]
      rfl
    · have no_steps : ({} : Path).steps = [] := by decide
      rw [no_steps, steps, hp]
      simp [named]
  | cons next rest =>
    obtain ⟨idle, first, tail, split, skipped, left, alone⟩ := dropIdle_eq (List.cons_ne_nil next rest)
    rw [dropIdle_cons_cons, busy]
    rw [left] at split ⊢
    have pieces : p.pieces = (first :: tail).reverse ++ (idle.reverse ++ [last]) := by
      rw [← List.append_assoc, ← List.reverse_append, ← split, ← hf, List.reverse_reverse, hp]
    have skipped' : ∀ piece ∈ idle.reverse, isIdle piece = true := by simpa using skipped
    simp only [Bool.false_eq_true, if_false]
    rw [left]
    split
    · next root =>
      exact ⟨_, rfl, root_above pieces skipped' busy (by rw [root]; rfl)⟩
    · exact ⟨_, rfl, kept_above pieces skipped' busy rfl alone⟩

/-! ## Sound texts -/

/-- What is wrong with the text of a path, in any storage. -/
def flaw? (p : Path) : Option Fault :=
  if p.text.toList.any (· = '\x00') then some .interiorNul
  else if p.text = "" then some .notFound
  else if pathLimit < p.text.utf8ByteSize then some .nameTooLong
  else none

theorem flaw?_eq_none_iff : p.flaw? = none ↔ p.text.toList.any (· = '\x00') = false ∧
    p.text ≠ "" ∧ p.text.utf8ByteSize ≤ pathLimit := by
  unfold flaw?
  split
  · next h => simp [h]
  split
  · next h => simp [h]
  split
  · next h => simp [Nat.not_le.2 h]
  · next hz he hl => simp [hz, he, Nat.not_lt.1 hl]

theorem flaw?_ne_notFound (h : p.text ≠ "") : p.flaw? ≠ some .notFound := by
  unfold flaw?
  split
  · nofun
  · split <;> nofun

theorem Above.text_ne_empty (h : above.Above p) : p.text ≠ "" := by
  obtain ⟨rest, some_rest, text⟩ := h.text
  simp [text, some_rest]

theorem Above.length_lt (h : above.Above p) : above.text.length < p.text.length := by
  obtain ⟨rest, some_rest, text⟩ := h.text
  have some_char : 0 < rest.length := by
    rw [Nat.pos_iff_ne_zero]
    simpa using some_rest
  rw [text, String.length_append]
  omega

/-- A way up from a sound path is sound, unless it is empty. -/
theorem Above.flaw? (h : above.Above p) (sound : p.flaw? = none) (some_text : above.text ≠ "") :
    above.flaw? = none := by
  obtain ⟨rest, -, text⟩ := h.text
  obtain ⟨hz, -, hl⟩ := flaw?_eq_none_iff.1 sound
  rw [text, String.toList_append, List.any_append, Bool.or_eq_false_iff] at hz
  rw [text, String.utf8ByteSize_append] at hl
  exact flaw?_eq_none_iff.2 ⟨hz.1, some_text, by omega⟩

theorem components_of_empty (h : p.text = "") : p.components = [] := by
  rw [components, isAbsolute, pieces, h]
  decide

theorem IsTrim.components_ne_nil (h : p.IsTrim) : p.components ≠ [] := by
  obtain ⟨front, last, hp, busy⟩ := h
  have said : component? last ≠ none := by
    rw [← Bool.not_eq_true, isIdle_iff, not_or] at busy
    simp only [component?, busy.1, busy.2, decide_false, Bool.or_self, Bool.false_eq_true, if_false]
    split <;> exact Option.some_ne_none _
  have rest : p.pieces.filterMap component? ≠ [] := by
    intro e
    exact said (List.filterMap_eq_nil_iff.1 e last (by rw [hp]; simp))
  rw [components]
  split
  · exact List.cons_ne_nil _ _
  split
  · exact List.cons_ne_nil _ _
  · exact rest

theorem IsTrim.text_ne_empty (h : p.IsTrim) : p.text ≠ "" :=
  fun e => h.components_ne_nil (components_of_empty e)

/-! ## Paths that end in a name -/

/-- An ending without slash stays in one piece with what comes before it. -/
theorem splitChars_ending {ending : List Char} (h : '/' ∉ ending) (before : List Char) :
    ∃ front name, splitChars '/' (before ++ ending) = front ++ [name ++ ending] := by
  induction before with
  | nil => exact ⟨[], [], splitChars_of_not_mem h⟩
  | cons c before ih =>
    obtain ⟨front, name, split⟩ := ih
    rw [List.cons_append, splitChars, split]
    by_cases slash : c = '/'
    · exact ⟨[] :: front, name, if_pos slash⟩
    · rw [if_neg slash]
      cases front with
      | nil => exact ⟨[], c :: name, rfl⟩
      | cons head tail => exact ⟨(c :: head) :: tail, name, rfl⟩

/-- A text with an ending longer than any idle piece ends in a name. -/
theorem isTrim_append (s : String) {ending : String} (h : '/' ∉ ending.toList)
    (long : 1 < ending.length) : (⟨s ++ ending⟩ : Path).IsTrim := by
  obtain ⟨front, name, split⟩ := splitChars_ending h s.toList
  refine ⟨front.map String.ofList, String.ofList (name ++ ending.toList), ?_, ?_⟩
  · rw [pieces, splitAt, String.toList_append, split, List.map_append, List.map_singleton]
  · rw [← Bool.not_eq_true, isIdle_iff]
    have longer : 1 < (String.ofList (name ++ ending.toList)).length := by
      simp
      omega
    rintro (e | e) <;> rw [e] at longer <;> exact absurd longer (by decide)

/-- A piece pushed on a path ends it. -/
theorem IsTrim.push (p : Path) {piece : String} (h : (⟨piece⟩ : Path).IsTrim) :
    (p.push piece).IsTrim := by
  obtain ⟨front, last, hp, busy⟩ := h
  rw [Path.push]
  split
  · exact ⟨front, last, hp, busy⟩
  split
  · next ht =>
    obtain ⟨before, text, -⟩ := pieces_of_slash ht
    rw [text]
    exact ⟨_, last, by rw [pieces_append, hp, List.append_assoc], busy⟩
  · exact ⟨_, last, by rw [pieces_append, hp, List.append_assoc], busy⟩

end Path

end Concretize.Storage
