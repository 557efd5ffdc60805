import Concretize.Proofs.Rereading
import Concretize.Proofs.Soundness

/-!
# Attributes and their texts

An attribute is kept as its path and a text, written again with that text in parentheses or behind
an equals sign, and then read by the grammar. The brackets around its tokens are not kept.

* `attributesOf?_code`: an attribute is read from its own code.
* `sound_of_valueless`, `sound_of_expressionless`: attributes that were read are sound if they have
  no value, or a lone literal for a value.
* `reads_written`: what is read from the text of an attribute is the attribute with parentheses
  around its tokens, `rounded`.
-/
namespace Concretize.Code

open Lexing Text Text.Reader

/-! ## Rules -/

namespace Rule

variable {α : Type} {code rest : Code}

theorem run_ahead (p : Look) : (ahead p).run code = some (p code, code) := rfl

theorem run_expect {p : Look} (h : p code) : (expect p).run code = some ((), code) := by
  change (if p code then _ else _ : Rule Unit).run code = _
  rw [if_pos h]
  rfl

theorem run_op {s : String} (h : Look.op s code) :
    (op s).run code = some (ofOperator s.toList, code.drop s.length) := by
  rw [op, StateT.run_bind, run_expect h]
  rfl

theorem run_maybe {p : Look} {r : Rule (List α)} :
    (maybe p r).run code = if p code then r.run code else some ([], code) := by
  rw [maybe, StateT.run_bind, run_ahead]
  simp only [Option.bind_eq_bind, Option.bind_some]
  split <;> rfl

theorem run_inside {d : Delimiter} {r : Rule α} {inner : Code} {a : α}
    (h : r.run inner = some (a, [])) :
    (inside d r).run (.group d inner :: code) = some (a, code) := by
  simp [inside, h, check]

theorem of_run_op {s : String} {taken : Code} (h : (op s).run code = some (taken, rest)) :
    taken = ofOperator s.toList ∧ rest = code.drop s.length := by
  simp only [op, run_bind_eq_some] at h
  obtain ⟨_, mid, expected, _, mid', dropped, h⟩ := h
  obtain ⟨-, rfl⟩ := of_run_expect expected
  obtain ⟨rfl, rfl⟩ := run_pure_eq_some.1 h
  cases dropped
  exact ⟨rfl, rfl⟩

theorem of_run_inside {d : Delimiter} {r : Rule α} {a : α}
    (h : (inside d r).run code = some (a, rest)) :
    ∃ inner, code = .group d inner :: rest ∧ r.run inner = some (a, []) := by
  simp only [inside, run_bind_eq_some] at h
  obtain ⟨ahead, mid, got, h⟩ := h
  cases got
  split at h
  · next e inner behind =>
    simp only [run_bind_eq_some] at h
    obtain ⟨_, mid, checked, h⟩ := h
    unfold check at checked
    split at checked
    · next same =>
      cases checked
      split at h
      · next a' taken =>
        simp only [run_bind_eq_some, run_pure_eq_some] at h
        obtain ⟨_, mid, put, rfl, rfl⟩ := h
        cases put
        rw [of_decide_eq_true same]
        exact ⟨inner, rfl, taken⟩
      · cases h
    · cases checked
  · cases h

/-- A repetition keeps what every turn keeps, and its results are as those of every turn. -/
theorem of_run_repeatUpTo {p : Look} {r : Rule (List α)} (inv : Code → Prop) {good : α → Prop}
    (turn : ∀ {code rest : Code} {as : List α}, inv code → r.run code = some (as, rest) →
      (∀ a ∈ as, good a) ∧ inv rest) {n : Nat} {as : List α} (start : inv code)
    (h : (repeatUpTo p r n).run code = some (as, rest)) : (∀ a ∈ as, good a) ∧ inv rest := by
  induction n generalizing code as with
  | zero =>
    obtain ⟨rfl, rfl⟩ := run_pure_eq_some.1 h
    exact ⟨nofun, start⟩
  | succ n ih =>
    rw [repeatUpTo, run_maybe] at h
    split at h
    · obtain ⟨first, mid, one, h⟩ := run_bind_eq_some.1 h
      obtain ⟨others, mid', more, h⟩ := run_bind_eq_some.1 h
      obtain ⟨rfl, rfl⟩ := run_pure_eq_some.1 h
      obtain ⟨here, kept⟩ := turn start one
      obtain ⟨there, kept⟩ := ih kept more
      exact ⟨List.forall_mem_append.2 ⟨here, there⟩, kept⟩
    · cases h
      exact ⟨nofun, start⟩

end Rule

/-! ## Paths -/

/-- A path as it is read: words that can be segments of a path, or the word `unsafe` alone. -/
structure ModPath.Sound (p : ModPath) : Prop where
  filled : p.names ≠ []
  words : ∀ n ∈ p.names, IsWord n.toList
  segments : p = { names := ["unsafe"] } ∨ ∀ n ∈ p.names, Look.pathWord [.word n]

theorem look_colons {code : Code} : Look.op "::" (ofOperator [':', ':'] ++ code) = true := rfl

namespace Grammar

open Rule

variable {code rest : Code}

theorem run_namesUpTo {names : List String} (filled : names ≠ [])
    (segments : ∀ n ∈ names, Look.pathWord [.word n]) (ends : Look.op "::" code = false)
    {n : Nat} (large : names.length ≤ n) :
    (namesUpTo n).run (ModPath.namesCode names ++ code) = some (names, code) := by
  induction names generalizing n with
  | nil => exact absurd rfl filled
  | cons first others ih =>
    obtain ⟨n, rfl⟩ := Nat.exists_eq_succ_of_ne_zero (Nat.ne_zero_of_lt large)
    have front (more : Code) : (expect Look.pathWord).run (.word first :: more) =
        some ((), .word first :: more) :=
      run_expect (segments first List.mem_cons_self)
    have word (more : Code) : anyWord.run (.word first :: more) = some (first, more) := rfl
    cases others with
    | nil =>
      change (namesUpTo (n + 1)).run (.word first :: code) = _
      simp [namesUpTo, front, word, run_ahead, ends]
    | cons second others =>
      let rest := ModPath.namesCode (second :: others) ++ code
      have shape : ModPath.namesCode (first :: second :: others) ++ code =
          .word first :: (ofOperator [':', ':'] ++ rest) := by
        simp [ModPath.namesCode, rest]
      have colons : (op "::").run (ofOperator [':', ':'] ++ rest) =
          some (ofOperator [':', ':'], rest) := run_op look_colons
      have behind : (namesUpTo n).run rest = some (second :: others, code) :=
        ih (List.cons_ne_nil second others)
          (fun n hn => segments n (List.mem_cons_of_mem first hn)) (Nat.le_of_succ_le_succ large)
      rw [shape]
      simp [namesUpTo, front, word, run_ahead, look_colons, colons, behind]

theorem length_le_namesCode : (names : List String) →
    names.length ≤ (ModPath.namesCode names).length
  | [] => le_rfl
  | [_] => le_rfl
  | first :: second :: others => by
    have behind := length_le_namesCode (second :: others)
    simp only [ModPath.namesCode, List.length_cons, List.length_append] at behind ⊢
    omega

theorem run_modPath {p : ModPath} (filled : p.names ≠ [])
    (segments : ∀ n ∈ p.names, Look.pathWord [.word n]) (ends : Look.op "::" code = false) :
    modPath.run (p.code ++ code) = some (p, code) := by
  obtain ⟨leading, names⟩ := p
  let rest := ModPath.namesCode names ++ code
  have behind : (namesUpTo rest.length).run rest = some (names, code) := by
    refine run_namesUpTo filled segments ends ?_
    rw [List.length_append]
    exact (length_le_namesCode names).trans (Nat.le_add_right _ _)
  cases leading with
  | true =>
    have colons : (optionalOp "::").run (ofOperator [':', ':'] ++ rest) =
        some (ofOperator [':', ':'], rest) := by
      rw [optionalOp, run_maybe, if_pos look_colons]
      exact run_op look_colons
    rw [ModPath.code, if_pos rfl, List.append_assoc, modPath, StateT.run_bind, colons]
    change ((namesUpTo rest.length).run rest).bind _ = _
    rw [behind]
    rfl
  | false =>
    have colons : (optionalOp "::").run rest = some ([], rest) := by
      obtain ⟨first, others, rfl⟩ := List.exists_cons_of_ne_nil filled
      have plain : ¬ Look.op "::" rest := by cases others <;> exact Bool.false_ne_true
      rw [optionalOp, run_maybe, if_neg plain]
    rw [ModPath.code, if_neg Bool.false_ne_true, List.nil_append, modPath, StateT.run_bind, colons]
    change ((namesUpTo rest.length).run rest).bind _ = _
    rw [behind]
    rfl

theorem of_run_namesUpTo {n : Nat} {names : List String} (sound : Lexing.Sound code)
    (h : (namesUpTo n).run code = some (names, rest)) :
    (names ≠ [] ∧ ∀ n ∈ names, IsWord n.toList ∧ Look.pathWord [.word n]) ∧ Lexing.Sound rest := by
  induction n generalizing code names with
  | zero => cases h
  | succ n ih =>
    simp only [namesUpTo, run_bind_eq_some] at h
    obtain ⟨_, mid, expected, first, mid', word, found, mid'', ahead, h⟩ := h
    obtain ⟨segment, rfl⟩ := of_run_expect expected
    obtain rfl := eq_cons_of_anyWord word
    cases ahead
    have this : IsWord first.toList ∧ Look.pathWord [.word first] := by
      cases sound with
      | word isWord _ => exact ⟨isWord, segment⟩
    split at h
    · simp only [run_bind_eq_some, run_pure_eq_some] at h
      obtain ⟨_, mid, colons, others, mid', more, rfl, rfl⟩ := h
      obtain ⟨-, rfl⟩ := of_run_op colons
      obtain ⟨⟨-, words⟩, kept⟩ := ih (sound.tail.drop _) more
      exact ⟨⟨List.cons_ne_nil _ _, List.forall_mem_cons.2 ⟨this, words⟩⟩, kept⟩
    · obtain ⟨rfl, rfl⟩ := run_pure_eq_some.1 h
      exact ⟨⟨List.cons_ne_nil _ _, List.forall_mem_singleton.2 this⟩, sound.tail⟩

theorem of_run_modPath {p : ModPath} (sound : Lexing.Sound code)
    (h : modPath.run code = some (p, rest)) : p.Sound ∧ Lexing.Sound rest := by
  simp only [modPath, run_bind_eq_some, run_pure_eq_some] at h
  obtain ⟨leading, mid, colons, _, mid', got, names, mid'', taken, rfl, rfl⟩ := h
  cases got
  have kept : Lexing.Sound mid := by
    rw [optionalOp, run_maybe] at colons
    split at colons
    · rw [(of_run_op colons).2]
      exact sound.drop _
    · cases colons
      exact sound
  obtain ⟨⟨filled, words⟩, kept⟩ := of_run_namesUpTo kept taken
  exact ⟨⟨filled, fun n hn => (words n hn).1, .inr fun n hn => (words n hn).2⟩, kept⟩

end Grammar

/-! ## One attribute -/

/-- An attribute as it is read: its path is, its tokens are code, and its value is an expression
that the grammar takes as it is written. -/
structure Attribute.Sound (a : Attribute) : Prop where
  path : a.path.Sound
  tokens : ∀ d code, a.form = .list d code → Lexing.Sound code
  value : ∀ code, a.form = .value code → Lexing.Sound code ∧
    (grammarFor a.code).attributeValue.run code = some (code, [])

/-- An attribute as it is read from code: its path is, its tokens are code, and its value is as
values are. -/
structure Attribute.Lexed (good : Code → Prop) (a : Attribute) : Prop where
  path : a.path.Sound
  tokens : ∀ d code, a.form = .list d code → Lexing.Sound code
  value : ∀ code, a.form = .value code → good code

namespace Grammar

open Rule

variable {g : Grammar} {a : Attribute}

theorem look_colons_form (form : AttributeForm) : Look.op "::" form.code = false := by
  cases form <;> rfl

/-- The path of an attribute, which may be the word `unsafe`. -/
def attributePath : Rule ModPath := do
  if ← ahead (Look.word "unsafe") then return { names := [← anyWord] } else modPath

/-- What an attribute says after its path. -/
def attributeForm (g : Grammar) : Rule AttributeForm := do
  match ← get with
  | .group delimiter tokens :: rest =>
    set rest
    return .list delimiter tokens
  | _ =>
    if ← ahead (Look.op "=") then
      let _ ← op "="
      return .value (← g.attributeValue)
    else return .bare

theorem attributeContent_eq :
    g.attributeContent = do return { path := ← attributePath, form := ← g.attributeForm } := by
  have rest (path : ModPath) : (do
      match ← get with
      | .group delimiter tokens :: rest =>
        set rest
        return { path, form := .list delimiter tokens }
      | _ =>
        if ← ahead (Look.op "=") then
          let _ ← op "="
          return { path, form := .value (← g.attributeValue) }
        return { path, form := .bare } : Rule Attribute) =
      do return { path, form := ← g.attributeForm } := by
    simp only [attributeForm, bind_assoc]
    congr 1
    funext code
    split
    · simp
    · simp only [bind_assoc]
      congr 1
      funext found
      cases found <;> simp
  simp only [attributeContent, attributePath, bind_assoc]
  congr 1
  funext found
  cases found with
  | true =>
    simp only [if_true, bind_assoc, pure_bind]
    congr 1
    funext word
    exact rest _
  | false =>
    simp only [Bool.false_eq_true, if_false]
    congr 1
    funext path
    exact rest path

theorem run_attributePath {p : ModPath} {code : Code} (h : p.Sound)
    (ends : Look.op "::" code = false) : attributePath.run (p.code ++ code) = some (p, code) := by
  rcases h.segments with rfl | segments
  · rfl
  · have plain : Look.word "unsafe" (p.code ++ code) = false := by
      obtain ⟨leading, names⟩ := p
      obtain ⟨first, others, rfl⟩ := List.exists_cons_of_ne_nil h.filled
      have other : first ≠ "unsafe" := by
        rintro rfl
        exact absurd (segments _ List.mem_cons_self) (by decide)
      cases leading with
      | true => rfl
      | false => cases others <;> exact beq_false_of_ne other
    rw [attributePath, StateT.run_bind, run_ahead, plain]
    exact run_modPath h.filled segments ends

theorem run_attributeForm {form : AttributeForm}
    (value : ∀ code, form = .value code → g.attributeValue.run code = some (code, [])) :
    g.attributeForm.run form.code = some (form, []) := by
  cases form with
  | bare => rfl
  | list d tokens => rfl
  | value code =>
    have equals : (op "=").run (.punct '=' false :: code) = some (ofOperator ['='], code) :=
      run_op rfl
    have found : Look.op "=" (.punct '=' false :: code) = true := rfl
    simp [attributeForm, AttributeForm.code, run_ahead, found, equals, value code rfl]

theorem run_attributeContent (path : a.path.Sound)
    (value : ∀ code, a.form = .value code → g.attributeValue.run code = some (code, [])) :
    g.attributeContent.run a.content = some (a, []) := by
  have front := run_attributePath path (look_colons_form a.form)
  rw [attributeContent_eq, Attribute.content, StateT.run_bind, front]
  simp [run_attributeForm value]

theorem run_attributes (path : a.path.Sound)
    (value : ∀ code, a.form = .value code → g.attributeValue.run code = some (code, [])) :
    g.attributes.run a.code = some ([a], []) := by
  have one : (do let _ ← op "#"; return [← inside .square g.attributeContent] :
      Rule (List Attribute)).run a.code = some ([a], []) := by
    have hash : (op "#").run a.code = some (ofOperator ['#'], [.group .square a.content]) :=
      run_op rfl
    simp [hash, run_inside (run_attributeContent path value)]
  have found : Look.op "#" a.code = true := rfl
  have ends : Look.op "#" [] = false := rfl
  change (repeatUpTo (Look.op "#") _ 2).run a.code = _
  rw [repeatUpTo, run_maybe, if_pos found]
  change ((_ >>= fun first => _ >>= fun others => pure (first ++ others)) : Rule _).run a.code = _
  rw [StateT.run_bind, one]
  simp [repeatUpTo, run_maybe, ends]

/-! ## Attributes that were read -/

section Read
variable {code rest : Code}

theorem of_run_attributePath {p : ModPath} (sound : Lexing.Sound code)
    (h : attributePath.run code = some (p, rest)) : p.Sound ∧ Lexing.Sound rest := by
  simp only [attributePath, run_bind_eq_some] at h
  obtain ⟨found, mid, ahead, h⟩ := h
  cases ahead
  split at h
  · next found =>
    simp only [run_bind_eq_some, run_pure_eq_some] at h
    obtain ⟨w, mid, word, rfl, rfl⟩ := h
    obtain rfl := eq_cons_of_anyWord word
    obtain rfl : w = "unsafe" := by simpa [Look.word] using found
    have segments : ModPath.Sound { names := ["unsafe"] } :=
      ⟨List.cons_ne_nil _ _, List.forall_mem_singleton.2 (.plain (by decide)), .inl rfl⟩
    exact ⟨segments, sound.tail⟩
  · exact of_run_modPath sound h

theorem run_negative {l : String} {joint : Bool} (code : Code)
    (digit : Look.literal (.punct '-' joint :: .literal l :: code)) :
    literal.run (.punct '-' joint :: .literal l :: code) =
      some ([.punct '-' false, .literal l], code) := by
  rw [literal, StateT.run_bind, run_expect digit]
  rfl

/-- A literal is read as one token, or as a number behind a minus. -/
theorem cases_of_literal {value : Code} (h : literal.run code = some (value, rest)) :
    (∃ l, code = .literal l :: rest ∧ value = [.literal l]) ∨
      (∃ w ∈ ["true", "false"], code = .word w :: rest ∧ value = [.word w]) ∨
      ∃ joint l, code = .punct '-' joint :: .literal l :: rest ∧
        value = [.punct '-' false, .literal l] ∧ Look.literal value := by
  have looks : Look.literal code := by
    obtain ⟨_, mid, expected, -⟩ := run_bind_eq_some.1 h
    exact (of_run_expect expected).1
  unfold Look.literal at looks
  split at looks
  · next l code =>
    cases h
    exact .inl ⟨l, rfl, rfl⟩
  · next w code =>
    rw [Bool.or_eq_true, beq_iff_eq, beq_iff_eq] at looks
    rcases looks with rfl | rfl <;> cases h <;> exact .inr (.inl ⟨_, by decide, rfl, rfl⟩)
  · next joint l code =>
    rw [run_negative code looks] at h
    cases h
    exact .inr (.inr ⟨joint, l, rfl, rfl, looks⟩)
  · cases looks

/-- A literal that was read is read as it stands. -/
theorem of_run_literal {value : Code} (sound : Lexing.Sound code)
    (h : literal.run code = some (value, rest)) :
    Lexing.Sound value ∧ literal.run value = some (value, []) := by
  have one {l : String} {code : Code} (sound : Lexing.Sound (.literal l :: code)) :
      Lexing.Sound [.literal l] := by
    cases sound with
    | literal isLiteral more => exact .literal isLiteral .nil
  rcases cases_of_literal h with ⟨l, rfl, rfl⟩ | ⟨w, known, rfl, rfl⟩ | ⟨joint, l, rfl, rfl, looks⟩
  · exact ⟨one sound, rfl⟩
  · cases sound with
    | word isWord more =>
      refine ⟨.word isWord .nil, ?_⟩
      simp only [List.mem_cons, List.not_mem_nil, or_false] at known
      rcases known with rfl | rfl <;> rfl
  · exact ⟨.single (by decide) (by decide) (one sound.tail), run_negative [] looks⟩

theorem attributeValue_of_literal (g : Grammar) {value : Code}
    (h : literal.run value = some (value, [])) :
    g.attributeValue.run value = some (value, []) := by
  simp [attributeValue, h]

/-- What a rule for values of attributes says of each value that it finds in sound code. -/
def Finds (g : Grammar) (good : Code → Prop) : Prop :=
  ∀ {code value rest : Code}, Lexing.Sound code →
    g.attributeValue.run code = some (value, rest) → good value

variable {good : Code → Prop}

/-- Without expressions, the value of an attribute is a lone literal. -/
theorem finds_literals : Grammar.empty.Finds fun value =>
    Lexing.Sound value ∧ literal.run value = some (value, []) := by
  intro code value rest sound h
  simp only [attributeValue, run_bind_eq_some] at h
  obtain ⟨_, mid, got, h⟩ := h
  cases got
  split at h
  · next lone =>
    simp only [run_bind_eq_some, run_pure_eq_some] at h
    obtain ⟨_, mid, -, rfl, rfl⟩ := h
    exact of_run_literal sound lone
  · obtain ⟨_, mid, -, none⟩ := run_bind_eq_some.1 h
    cases none

theorem of_run_attributeForm {form : AttributeForm} (finds : g.Finds good)
    (sound : Lexing.Sound code) (h : g.attributeForm.run code = some (form, rest)) :
    (∀ d tokens, form = .list d tokens → Lexing.Sound tokens) ∧
      ∀ value, form = .value value → good value := by
  simp only [attributeForm, run_bind_eq_some] at h
  obtain ⟨_, mid, got, h⟩ := h
  cases got
  split at h
  · next d tokens behind =>
    simp only [run_bind_eq_some, run_pure_eq_some] at h
    obtain ⟨_, mid, -, rfl, -⟩ := h
    cases sound with
    | group inside more =>
      refine ⟨?_, nofun⟩
      rintro d tokens ⟨⟩
      exact inside
  · obtain ⟨found, mid, ahead, h⟩ := run_bind_eq_some.1 h
    cases ahead
    split at h
    · simp only [run_bind_eq_some, run_pure_eq_some] at h
      obtain ⟨_, mid, equals, value, mid', taken, rfl, -⟩ := h
      refine ⟨nofun, ?_⟩
      rintro value ⟨⟩
      rw [(of_run_op equals).2] at taken
      exact finds (sound.drop _) taken
    · obtain ⟨rfl, -⟩ := run_pure_eq_some.1 h
      exact ⟨nofun, nofun⟩

theorem of_run_attributeContent {a : Attribute} (finds : g.Finds good)
    (sound : Lexing.Sound code) (h : g.attributeContent.run code = some (a, rest)) :
    a.Lexed good := by
  rw [attributeContent_eq] at h
  simp only [run_bind_eq_some, run_pure_eq_some] at h
  obtain ⟨path, mid, front, form, mid', behind, rfl, -⟩ := h
  obtain ⟨segments, kept⟩ := of_run_attributePath sound front
  obtain ⟨tokens, value⟩ := of_run_attributeForm finds kept behind
  exact ⟨segments, tokens, value⟩

theorem of_run_attributes {attributes : List Attribute} (finds : g.Finds good)
    (sound : Lexing.Sound code) (h : g.attributes.run code = some (attributes, rest)) :
    (∀ a ∈ attributes, a.Lexed good) ∧ Lexing.Sound rest := by
  refine of_run_repeatUpTo Lexing.Sound ?_ sound h
  intro code rest as sound h
  simp only [run_bind_eq_some, run_pure_eq_some] at h
  obtain ⟨_, mid, hash, a, mid', content, rfl, rfl⟩ := h
  obtain ⟨inner, shape, taken⟩ := of_run_inside content
  have kept : Lexing.Sound (.group .square inner :: mid') := by
    rw [← shape, (of_run_op hash).2]
    exact sound.drop _
  cases kept with
  | group inside more =>
    exact ⟨List.forall_mem_singleton.2 (of_run_attributeContent finds inside taken), more⟩

theorem lexed_of_whole {text : String} {attributes : List Attribute} (finds : g.Finds good)
    (h : (ofText? text).bind g.attributes.whole? = some attributes) :
    ∀ a ∈ attributes, a.Lexed good := by
  obtain ⟨code, read, taken⟩ := Option.bind_eq_some_iff.1 h
  unfold Rule.whole? at taken
  split at taken
  · next run =>
    cases taken
    exact (of_run_attributes finds (sound_of_ofText? read) run).1
  · cases taken

end Read

end Grammar

theorem attributesOf?_code {a : Attribute} (path : a.path.Sound)
    (value : ∀ code, a.form = .value code →
      (grammarFor a.code).attributeValue.run code = some (code, [])) :
    attributesOf? a.code = some [a] := by
  rw [attributesOf?, readWhole, Rule.whole?, Grammar.run_attributes path value]

/-- An attribute that a text spells is sound, if it has no value. -/
theorem sound_of_valueless {text : String} {attributes : List Attribute}
    (h : (ofText? text).bind attributesOf? = some attributes) {a : Attribute} (ha : a ∈ attributes)
    (valueless : ∀ value, a.form ≠ .value value) : a.Sound := by
  obtain ⟨code, read, taken⟩ := Option.bind_eq_some_iff.1 h
  have whole : (ofText? text).bind (grammarFor code).attributes.whole? = some attributes := by
    rw [read]
    exact taken
  have lexed : a.Lexed fun _ => True := Grammar.lexed_of_whole (fun _ _ => trivial) whole a ha
  exact ⟨lexed.path, lexed.tokens, fun value same => absurd same (valueless value)⟩

/-- An attribute that a text spells without expressions is sound: its value, if it has one, is a
lone literal. -/
theorem sound_of_expressionless {text : String} {attributes : List Attribute}
    (h : (ofText? text).bind Grammar.empty.attributes.whole? = some attributes) :
    ∀ a ∈ attributes, a.Sound := by
  intro a ha
  have lexed := Grammar.lexed_of_whole Grammar.finds_literals h a ha
  refine ⟨lexed.path, lexed.tokens, fun value same => ?_⟩
  obtain ⟨sound, lone⟩ := lexed.value value same
  exact ⟨sound, Grammar.attributeValue_of_literal _ lone⟩

/-! ## The text of an attribute -/

section Spelling
variable {after rest : List Char} {code : Code}

/-- Two colons in front of something that is no operator. -/
theorem spells_colons {cs : List Char} (plain : ∀ c ∈ cs.head?, c ∉ punctuation)
    (next : Spells cs code rest) :
    Spells (':' :: ':' :: cs) (ofOperator [':', ':'] ++ code) rest := by
  have second : Begins (':' :: cs) := begins_of_head (by decide) (by decide)
  have first : Begins (':' :: ':' :: cs) := begins_of_head (by decide) (by decide)
  refine spells_punct (by decide) (by decide) first ?_
    (spells_punct (by decide) (by decide) second ?_ next)
  · rw [run_punctChar (by decide) second]
    rfl
  · rw [punctChar_eq_none plain]
    rfl

/-- Names begin with a character of a name. -/
theorem front_names {names : List String} (filled : names ≠ [])
    (words : ∀ n ∈ names, IsWord n.toList) (after : List Char) :
    ∃ c more, ("::".intercalate names).toList ++ after = c :: more ∧ isNameStart c := by
  obtain ⟨first, others, rfl⟩ := List.exists_cons_of_ne_nil filled
  obtain ⟨c, more, same, start⟩ := (words first List.mem_cons_self).front
  cases others with
  | nil =>
    refine ⟨c, more ++ after, ?_, start⟩
    rw [String.intercalate_singleton, same, List.cons_append]
  | cons second others =>
    refine ⟨c, more ++ "::".toList ++ ("::".intercalate (second :: others)).toList ++ after, ?_,
      start⟩
    simp [String.intercalate_cons_cons, same]

theorem plain_names {names : List String} (filled : names ≠ [])
    (words : ∀ n ∈ names, IsWord n.toList) (after : List Char) :
    ∀ c ∈ (("::".intercalate names).toList ++ after).head?, c ∉ punctuation := by
  obtain ⟨c, more, same, start⟩ := front_names filled words after
  rw [same]
  rintro d ⟨⟩
  exact not_mem_punctuation start

theorem spells_names {names : List String} (filled : names ≠ [])
    (words : ∀ n ∈ names, IsWord n.toList) (apart : Apart after) (next : Spells after code rest) :
    Spells (("::".intercalate names).toList ++ after) (ModPath.namesCode names ++ code) rest := by
  induction names with
  | nil => exact absurd rfl filled
  | cons first others ih =>
    have word : IsWord first.toList := words first List.mem_cons_self
    have words' : ∀ n ∈ others, IsWord n.toList :=
      fun n hn => words n (List.mem_cons_of_mem first hn)
    cases others with
    | nil =>
      have spelled := spells_word word apart next
      rwa [String.ofList_toList] at spelled
    | cons second others =>
      have filled' : second :: others ≠ [] := List.cons_ne_nil second others
      have colons := spells_colons (plain_names filled' words' after) (ih filled' words')
      have apart' {cs : List Char} : Apart (':' :: cs) := by
        rintro c ⟨⟩
        decide
      have spelled := spells_word word apart' colons
      rw [String.intercalate_cons_cons]
      simpa [ModPath.namesCode] using spelled

/-- A path without spaces, in front of something that does not go on with it. -/
theorem spells_path {p : ModPath} (h : p.Sound) (apart : Apart after)
    (next : Spells after code rest) : Spells (p.text.toList ++ after) (p.code ++ code) rest := by
  have names := spells_names h.filled h.words apart next
  obtain ⟨leading, list⟩ := p
  cases leading with
  | false => simpa [ModPath.text, ModPath.code] using names
  | true =>
    have plain := plain_names h.filled h.words after
    simpa [ModPath.text, ModPath.code] using spells_colons plain names

/-- A path does not make a comment of the bracket in front of it. -/
theorem not_block_path {p : ModPath} (h : p.Sound) : ¬ ['/', '*'] <+: p.text.toList ++ after := by
  obtain ⟨c, more, same, start⟩ := front_names h.filled h.words after
  have other : '/' ≠ c := by
    rintro rfl
    exact absurd start (by decide)
  obtain ⟨leading, list⟩ := p
  cases leading with
  | false =>
    have text : (ModPath.mk false list).text.toList ++ after = c :: more := by
      simpa [ModPath.text] using same
    rw [text, List.cons_prefix_cons]
    exact fun mark => other mark.1
  | true => simp [ModPath.text]

end Spelling

/-- The form with parentheses around the tokens, if it has any. -/
def AttributeForm.rounded : AttributeForm → AttributeForm
  | .list _ tokens => .list .round tokens
  | form => form

/-- The attribute with parentheses around its tokens, if it has any. -/
def Attribute.rounded (a : Attribute) : Attribute := { a with form := a.form.rounded }

/-- What an attribute says, as it is written after its path. -/
def AttributeForm.written : AttributeForm → String
  | .bare => ""
  | .list _ tokens => "(" ++ tokens.text ++ ")"
  | .value expression => " = " ++ expression.text

section
variable {a : Attribute}

theorem written_eq : Expansion.Attribute.written a =
    "#[" ++ a.path.text ++ a.form.written ++ "]" := by
  obtain ⟨path, form⟩ := a
  cases form <;> rfl

theorem apart_form {form : AttributeForm} {cs : List Char} :
    Apart (form.written.toList ++ ']' :: cs) := by
  intro c hc
  cases form <;> simp [AttributeForm.written] at hc <;> subst hc <;> decide

theorem spells_form {form : AttributeForm} (tokens : ∀ d code, form = .list d code → Sound code)
    (value : ∀ code, form = .value code → Sound code) (cs : List Char) :
    Spells (form.written.toList ++ ']' :: cs) form.rounded.code (']' :: cs) := by
  have ends : Spells (']' :: cs) [] (']' :: cs) := spells_end (by rintro c ⟨⟩; decide)
  have closed : Closed (']' :: cs) := closed_closing .square
  cases form with
  | bare => exact ends
  | list d inner =>
    have group : Sound [.group .round inner] := .group (tokens d inner rfl) .nil
    exact spells_text group closed ends
  | value expression =>
    have behind := spells_space (spells_text (value expression rfl) closed ends)
    have begins : Begins ('=' :: ' ' :: (expression.text.toList ++ ']' :: cs)) :=
      begins_of_head (by decide) (by decide)
    have equals : Spells ('=' :: ' ' :: (expression.text.toList ++ ']' :: cs))
        (AttributeForm.value expression).code (']' :: cs) :=
      spells_punct (by decide) (by decide) begins rfl behind
    change Spells _ (AttributeForm.value expression).code _
    simpa [AttributeForm.written] using spells_space equals

theorem spells_written (h : a.Sound) :
    Spells (Expansion.Attribute.written a).toList a.rounded.code [] := by
  have value (code : Code) (valued : a.form = .value code) : Sound code := (h.value code valued).1
  have inside := spells_path h.path apart_form (spells_form h.tokens value [])
  have shorter : ([] : List Char).length <
      (a.path.text.toList ++ (a.form.written.toList ++ [']'])).length := by
    simp only [List.length_append, List.length_cons, List.length_nil]
    omega
  have group : Spells ('[' :: (a.path.text.toList ++ (a.form.written.toList ++ [']'])))
      [.group .square a.rounded.content] [] :=
    spells_group (d := .square) (leaf_opening (not_block_path h.path)) inside shorter
      spells_nil
  have begins : Begins ('#' :: '[' :: (a.path.text.toList ++ (a.form.written.toList ++ [']']))) :=
    begins_of_head (by decide) (by decide)
  have whole : Spells ('#' :: '[' :: (a.path.text.toList ++ (a.form.written.toList ++ [']'])))
      a.rounded.code [] :=
    spells_punct (by decide) (by decide) begins rfl group
  rw [written_eq]
  simpa using whole

/-- **Reading back.** The text of an attribute spells the attribute, with parentheses around its
tokens. -/
theorem reads_written (h : a.Sound) :
    (ofText? (Expansion.Attribute.written a)).bind attributesOf? = some [a.rounded] := by
  have unmarked : (Expansion.Attribute.written a).toList.head? ≠ some '\uFEFF' := by
    rw [written_eq]
    simp
  rw [ofText?_of_spells unmarked (spells_written h), Option.bind_some]
  refine attributesOf?_code h.path fun code valued => ?_
  obtain ⟨path, form⟩ := a
  cases form with
  | bare => cases valued
  | list d tokens => cases valued
  | value expression => exact (h.value code valued).2

end

end Concretize.Code
