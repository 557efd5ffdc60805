import Concretize.Expansion.Arguments
import Concretize.Proofs.Specialization
import Concretize.Proofs.TypeExtent

/-!
# The form of arguments

The arguments of the attribute are accepted exactly if they are a list with commas of entries, each
of which is a list with commas of settings.

* `Listed`, `IsSetting`, `IsEntry`: the form of lists, settings and entries, apart from how they are
  read.
* `run_overCommas`: what goes over a list with commas reads exactly those lists, if it reads exactly
  the items in front of whatever ends or goes on with a comma.
* `argumentsOf_eq_ok_iff`: so arguments are read exactly if they are a list of entries, and in an
  entry it is the last type and the last name that count, in whatever order they stand.
-/
namespace Concretize.Expansion

open Code Text.Reader

/-! ## The form -/

/-- A list of items with commas between them, and perhaps after the last. -/
inductive Listed {α : Type} (item : Code → α → Prop) : Code → List α → Prop where
  | nil : Listed item [] []
  | last {c : Code} {a : α} (h : item c a) : Listed item c [a]
  | cons {c rest : Code} {a : α} {as : List α} {joint : Bool} (h : item c a)
      (more : Listed item rest as) : Listed item (c ++ .punct ',' joint :: rest) (a :: as)

/-- What an entry may say. -/
inductive Setting where
  | type (form : TypeForm)
  | name (text : String)

/-- The type that is said. -/
def Setting.type? : Setting → Option TypeForm
  | .type form => some form
  | .name _ => none

/-- The name that is said. -/
def Setting.name? : Setting → Option String
  | .type _ => none
  | .name text => some text

/-- The types among settings, in order. -/
def types (settings : List Setting) : List TypeForm := settings.filterMap Setting.type?

/-- The names among settings, in order. -/
def names (settings : List Setting) : List String := settings.filterMap Setting.name?

/-- Code that is a setting: `ty` with a type, or `name` with a literal that spells a text. -/
inductive IsSetting (g : Grammar) : Code → Setting → Prop where
  | type {joint : Bool} {c : Code} {form : TypeForm} (h : (g.type true).whole? c = some form) :
      IsSetting g (.word "ty" :: .punct '=' joint :: c) (.type form)
  | name {joint : Bool} {literal text : String} (h : Literal.textValue? literal = some text) :
      IsSetting g [.word "name", .punct '=' joint, .literal literal] (.name text)

/-- Code that is an entry: settings in parentheses, among them a type. The last type and the last
name count. -/
inductive IsEntry (g : Grammar) : Code → ModelArgument → Prop where
  | model {inner : Code} {settings : List Setting} {type : TypeForm}
      (h : Listed (IsSetting g) inner settings) (last : (types settings).getLast? = some type) :
      IsEntry g [.word "model", .group .round inner]
        { type, name := (names settings).getLast? }

/-! ## Steps -/

variable {α σ : Type} {z z' : Code}

theorem run_bind_eq_ok {β : Type} {x : ArgumentRule α} {f : α → ArgumentRule β} {b : β} :
    (x >>= f).run z = .ok (b, z') ↔
      ∃ a rest, x.run z = .ok (a, rest) ∧ (f a).run rest = .ok (b, z') := by
  rw [StateT.run_bind, bind_eq_ok_iff, Prod.exists]

theorem run_pure_eq_ok {a b : α} :
    (pure a : ArgumentRule α).run z = .ok (b, z') ↔ a = b ∧ z = z' := by
  change Except.ok (a, z) = .ok (b, z') ↔ _
  rw [Except.ok.injEq, Prod.mk.injEq]

theorem run_lift {x : Except ArgumentError α} {a : α} :
    (liftM x : ArgumentRule α).run z = .ok (a, z') ↔ x = .ok a ∧ z = z' := by
  cases x with
  | error e => exact ⟨nofun, nofun⟩
  | ok b => exact run_pure_eq_ok.trans (by rw [Except.ok.injEq])

theorem run_required {rule : Rule α} {a : α} :
    (required rule).run z = .ok (a, z') ↔ rule.run z = some (a, z') := by
  rw [required, run_bind_eq_ok]
  constructor
  · rintro ⟨_, _, got, h⟩
    cases got
    split at h
    · next read =>
      obtain ⟨_, _, put, h⟩ := run_bind_eq_ok.1 h
      cases put
      obtain ⟨rfl, rfl⟩ := run_pure_eq_ok.1 h
      exact read
    · cases h
  · intro h
    exact ⟨z, z, rfl, by rw [h]; rfl⟩

/-- An operator of one character. -/
theorem eq_cons_of_op_one {s : String} (x : Char) {taken : Code}
    (h : (Rule.op s).run z = some (taken, z')) (one : s.toList = [x]) :
    ∃ joint, z = .punct x joint :: z' := by
  obtain ⟨_, rest, seen, -⟩ := run_bind_eq_some.1 h
  have front := (of_run_expect seen).1
  obtain ⟨-, rfl⟩ := Rule.of_run_op h
  rw [Look.op, one] at front
  obtain ⟨joint, rest, rfl⟩ := eq_of_char front
  rw [← String.length_toList, one]
  exact ⟨joint, rfl⟩

/-! ## Lists -/

section Lists

variable {item : σ → ArgumentRule σ} {s s' : σ} {n : Nat}

/-- What an item reads in front of whatever ends or goes on with a comma is code of a form, and it
makes known what that code says. -/
def Reads (item : σ → ArgumentRule σ) (Is : Code → α → Prop) (next : σ → α → σ) : Prop :=
  ∀ ⦃s s' : σ⦄ ⦃z z' : Code⦄, Ends z' →
    ((item s).run z = .ok (s', z') ↔ ∃ c a, Is c a ∧ z = c ++ z' ∧ s' = next s a)

/-- At the end nothing is read. -/
theorem run_overCommas_nil : (overCommas item n s).run [] = .ok (s, []) := by
  cases n <;> rfl

/-- An item is the last one, or a comma follows it. -/
theorem run_overCommas_succ (filled : z ≠ []) :
    (overCommas item (n + 1) s).run z = .ok (s', z') ↔
      ((item s).run z = .ok (s', []) ∧ z' = []) ∨
        ∃ next joint rest, (item s).run z = .ok (next, .punct ',' joint :: rest) ∧
          (overCommas item n next).run rest = .ok (s', z') := by
  obtain ⟨t, z, rfl⟩ := List.exists_cons_of_ne_nil filled
  have start : (overCommas item (n + 1) s).run (t :: z) = (item s >>= fun next => do
      if ← ended then return next
      let _ ← required (Rule.op ",")
      overCommas item n next).run (t :: z) := rfl
  rw [start, run_bind_eq_ok]
  constructor
  · rintro ⟨next, mid, one, h⟩
    obtain ⟨atEnd, _, seen, h⟩ := run_bind_eq_ok.1 h
    cases seen
    split at h
    · next none =>
      obtain ⟨rfl, rfl⟩ := run_pure_eq_ok.1 h
      obtain rfl := List.isEmpty_iff.1 none
      exact .inl ⟨one, rfl⟩
    · obtain ⟨_, rest, comma, more⟩ := run_bind_eq_ok.1 h
      obtain ⟨joint, rfl⟩ := eq_cons_of_op_one ',' (run_required.1 comma) rfl
      exact .inr ⟨next, joint, rest, one, more⟩
  · rintro (⟨one, rfl⟩ | ⟨next, joint, rest, one, more⟩)
    · exact ⟨s', [], one, rfl⟩
    · refine ⟨next, _, one, run_bind_eq_ok.2 ⟨false, _, rfl, ?_⟩⟩
      exact run_bind_eq_ok.2 ⟨_, rest, run_required.2 rfl, more⟩

theorem run_overCommas {Is : Code → α → Prop} {next : σ → α → σ}
    (reads : Reads item Is next) (filled : ∀ {c a}, Is c a → c ≠ []) (large : z.length < n) :
    (overCommas item n s).run z = .ok (s', z') ↔
      z' = [] ∧ ∃ as, Listed Is z as ∧ s' = as.foldl next s := by
  induction n generalizing z s with
  | zero => cases large
  | succ n ih =>
    constructor
    · intro h
      by_cases some : z = []
      · subst some
        rw [run_overCommas_nil] at h
        cases h
        exact ⟨rfl, [], .nil, rfl⟩
      obtain ⟨one, rfl⟩ | ⟨mid, joint, rest, one, more⟩ := (run_overCommas_succ some).1 h
      · obtain ⟨c, a, is, rfl, rfl⟩ := (reads .nil).1 one
        rw [List.append_nil]
        exact ⟨rfl, [a], .last is, rfl⟩
      · obtain ⟨c, a, is, rfl, rfl⟩ := (reads (.comma joint rest)).1 one
        obtain ⟨rfl, as, list, rfl⟩ := (ih (by simp at large; omega)).1 more
        exact ⟨rfl, a :: as, .cons is list, rfl⟩
    · rintro ⟨rfl, as, list, rfl⟩
      cases list with
      | nil => exact run_overCommas_nil
      | @last _ a is =>
        exact (run_overCommas_succ (filled is)).2
          (.inl ⟨(reads .nil).2 ⟨z, a, is, (List.append_nil z).symm, rfl⟩, rfl⟩)
      | @cons c rest a as joint is more =>
        refine (run_overCommas_succ fun h => ?_).2 (.inr ⟨next s a, joint, rest, ?_, ?_⟩)
        · exact filled is (List.append_eq_nil_iff.1 h).1
        · exact (reads (.comma joint rest)).2 ⟨c, a, is, rfl, rfl⟩
        · exact (ih (by simp at large; omega)).2 ⟨rfl, as, more, rfl⟩

end Lists

/-! ## Settings and entries -/

section Entries

variable {g : Grammar}

/-- What is known after one more setting. -/
def Entry.after (e : Entry) : Setting → Entry
  | .type form => { e with type := some form }
  | .name text => { e with name := some text }

/-- The last type and the last name are what is known in the end. -/
theorem foldl_after (settings : List Setting) (e : Entry) :
    settings.foldl Entry.after e = { type := (types settings).getLast?.or e.type
                                     name := (names settings).getLast?.or e.name } := by
  induction settings generalizing e with
  | nil => rfl
  | cons s settings ih =>
    rw [List.foldl_cons, ih]
    cases s with
    | type form =>
      have more : types (.type form :: settings) = form :: types settings := rfl
      have same : names (.type form :: settings) = names settings := rfl
      rw [more, same, List.getLast?_cons]
      cases (types settings).getLast? <;> rfl
    | name text =>
      have more : names (.name text :: settings) = text :: names settings := rfl
      have same : types (.name text :: settings) = types settings := rfl
      rw [more, same, List.getLast?_cons]
      cases (names settings).getLast? <;> rfl

theorem run_text {text : String} : Expansion.text.run z = some (text, z') ↔
    ∃ literal, z = .literal literal :: z' ∧ Literal.textValue? literal = some text := by
  constructor
  · intro h
    obtain ⟨_, _, got, h⟩ := run_bind_eq_some.1 h
    cases got
    split at h
    · next literal rest =>
      split at h
      · next value spelled =>
        obtain ⟨_, _, put, answer⟩ := run_bind_eq_some.1 h
        cases put
        obtain ⟨rfl, rfl⟩ := run_pure_eq_some.1 answer
        exact ⟨_, rfl, spelled⟩
      · cases h
    · cases h
  · rintro ⟨literal, rfl, spelled⟩
    refine run_bind_eq_some.2 ⟨_, _, rfl, ?_⟩
    simp only [spelled]
    rfl

theorem reads_setting (h : g.Local) : Reads (setting g) (IsSetting g) Entry.after := by
  intro e e' z z' ends
  constructor
  · intro run
    obtain ⟨key, _, first, behind⟩ := run_bind_eq_ok.1 run
    obtain ⟨taken, rest, second, value⟩ := run_bind_eq_ok.1 behind
    obtain ⟨joint, rfl⟩ := eq_cons_of_op_one '=' (run_required.1 second) rfl
    obtain ⟨_, _, named, word⟩ := run_bind_eq_some.1 (run_required.1 first)
    obtain ⟨-, rfl⟩ := of_run_expect named
    obtain rfl := eq_cons_of_anyWord word
    split at value
    · next same =>
      obtain ⟨form, _, read, answer⟩ := run_bind_eq_ok.1 value
      obtain ⟨rfl, rfl⟩ := run_pure_eq_ok.1 answer
      obtain ⟨c, rfl, whole⟩ := ((h.type true).run_eq_some_iff ends).1 (run_required.1 read)
      exact ⟨_, .type form, .type whole, by rw [same]; rfl, rfl⟩
    split at value
    · next same =>
      obtain ⟨text, _, read, answer⟩ := run_bind_eq_ok.1 value
      obtain ⟨rfl, rfl⟩ := run_pure_eq_ok.1 answer
      obtain ⟨literal, rfl, spelled⟩ := run_text.1 (run_required.1 read)
      exact ⟨_, .name text, .name spelled, by rw [same]; rfl, rfl⟩
    · cases value
  · rintro ⟨c, s, is, rfl, rfl⟩
    cases is with
    | @type joint c form whole =>
      refine run_bind_eq_ok.2 ⟨"ty", _, run_required.2 rfl, ?_⟩
      refine run_bind_eq_ok.2 ⟨_, c ++ z', run_required.2 rfl, ?_⟩
      have read := ((h.type true).run_eq_some_iff ends).2 ⟨c, rfl, whole⟩
      exact run_bind_eq_ok.2 ⟨form, z', run_required.2 read, rfl⟩
    | @name joint literal text spelled =>
      refine run_bind_eq_ok.2 ⟨"name", _, run_required.2 rfl, ?_⟩
      refine run_bind_eq_ok.2 ⟨_, .literal literal :: z', run_required.2 rfl, ?_⟩
      exact run_bind_eq_ok.2 ⟨text, z', run_required.2 (run_text.2 ⟨literal, rfl, spelled⟩), rfl⟩

theorem ne_nil_of_isSetting {c : Code} {s : Setting} (h : IsSetting g c s) : c ≠ [] := by
  cases h <;> nofun

theorem run_settings (h : g.Local) {inner rest : Code} {e : Entry} :
    (overCommas (setting g) (inner.length + 1) {}).run inner = .ok (e, rest) ↔ rest = [] ∧
      ∃ settings, Listed (IsSetting g) inner settings ∧ e = settings.foldl Entry.after {} :=
  run_overCommas (reads_setting h) ne_nil_of_isSetting (Nat.lt_succ_self inner.length)

theorem entryContent_of_listed (h : g.Local) {inner : Code} {settings : List Setting}
    (list : Listed (IsSetting g) inner settings) {a : ModelArgument} :
    entryContent g inner = .ok a ↔
      (types settings).getLast? = some a.type ∧ (names settings).getLast? = a.name := by
  have read := (run_settings h).2 ⟨rfl, settings, list, rfl⟩
  rw [foldl_after, Option.or_none, Option.or_none] at read
  obtain ⟨type, name⟩ := a
  rw [entryContent, read]
  cases (types settings).getLast? with
  | none => exact ⟨nofun, fun given => nomatch given.1⟩
  | some last =>
    change (Except.ok { type := last, name := (names settings).getLast? : ModelArgument } :
      Except ArgumentError ModelArgument) = .ok { type, name } ↔ _
    rw [Except.ok.injEq, ModelArgument.mk.injEq, Option.some.injEq]

/-- What is in an entry, as a list of settings. -/
theorem entryContent_eq_ok_iff (h : g.Local) {inner : Code} {a : ModelArgument} :
    entryContent g inner = .ok a ↔ ∃ settings, Listed (IsSetting g) inner settings ∧
      (types settings).getLast? = some a.type ∧ (names settings).getLast? = a.name := by
  constructor
  · intro content
    obtain ⟨⟨e, rest⟩, read, -⟩ := bind_eq_ok_iff.1 content
    obtain ⟨-, settings, list, -⟩ := (run_settings h).1 read
    exact ⟨settings, list, (entryContent_of_listed h list).1 content⟩
  · rintro ⟨settings, list, last⟩
    exact (entryContent_of_listed h list).2 last

theorem isEntry_iff (h : g.Local) {inner : Code} {a : ModelArgument} :
    IsEntry g [.word "model", .group .round inner] a ↔ entryContent g inner = .ok a := by
  rw [entryContent_eq_ok_iff h]
  constructor
  · rintro @⟨_, settings, type, list, last⟩
    exact ⟨settings, list, last, rfl⟩
  · rintro ⟨settings, list, last, name⟩
    cases a
    cases name
    exact .model list last

theorem run_entry (h : g.Local) {a : ModelArgument} :
    (entry g).run z = .ok (a, z') ↔ ∃ c, IsEntry g c a ∧ z = c ++ z' := by
  constructor
  · intro run
    obtain ⟨key, _, first, behind⟩ := run_bind_eq_ok.1 run
    obtain ⟨_, _, named, word⟩ := run_bind_eq_some.1 (run_required.1 first)
    obtain ⟨-, rfl⟩ := of_run_expect named
    obtain rfl := eq_cons_of_anyWord word
    split at behind
    · cases behind
    · next same =>
      obtain ⟨_, _, got, content⟩ := run_bind_eq_ok.1 behind
      cases got
      split at content
      · next inner rest =>
        obtain ⟨argument, kept, read, answer⟩ := run_bind_eq_ok.1 content
        obtain ⟨_, _, put, answer⟩ := run_bind_eq_ok.1 answer
        cases put
        obtain ⟨rfl, rfl⟩ := run_pure_eq_ok.1 answer
        obtain rfl := not_not.1 same
        exact ⟨_, (isEntry_iff h).2 (run_lift.1 read).1, rfl⟩
      · cases content
  · rintro ⟨c, is, rfl⟩
    obtain ⟨inner, rfl⟩ : ∃ inner, c = [.word "model", .group .round inner] := by
      cases is
      exact ⟨_, rfl⟩
    refine run_bind_eq_ok.2 ⟨"model", _, run_required.2 rfl, ?_⟩
    let behind : Code := .group .round inner :: z'
    refine run_bind_eq_ok.2 ⟨behind, behind, rfl, run_bind_eq_ok.2 ⟨a, behind, ?_, rfl⟩⟩
    exact run_lift.2 ⟨(isEntry_iff h).1 is, rfl⟩

theorem reads_furtherEntry (h : g.Local) :
    Reads (furtherEntry g) (IsEntry g) fun known a => known ++ [a] := by
  intro known known' z z' _
  rw [furtherEntry, run_bind_eq_ok]
  constructor
  · rintro ⟨a, _, read, answer⟩
    obtain ⟨rfl, rfl⟩ := run_pure_eq_ok.1 answer
    obtain ⟨c, is, rfl⟩ := (run_entry h).1 read
    exact ⟨c, a, is, rfl, rfl⟩
  · rintro ⟨c, a, is, rfl, rfl⟩
    exact ⟨a, z', (run_entry h).2 ⟨c, is, rfl⟩, rfl⟩

end Entries

theorem foldl_further (entries known : List ModelArgument) :
    entries.foldl (fun known a => known ++ [a]) known = known ++ entries := by
  induction entries generalizing known with
  | nil => simp
  | cons a entries ih => rw [List.foldl_cons, ih, List.append_assoc]; rfl

/-- Arguments are accepted exactly if they are a list of entries, which are answered in order. In an
entry only the types and the names are of interest, each in their own order. -/
theorem argumentsOf_eq_ok_iff (code : Code) :
    (∀ entries, argumentsOf code = .ok entries ↔ Listed (IsEntry (grammarFor code)) code entries) ∧
      ∀ inner inner' settings settings', Listed (IsSetting (grammarFor code)) inner settings →
        Listed (IsSetting (grammarFor code)) inner' settings' → types settings = types settings' →
        names settings = names settings' → ∀ a,
          IsEntry (grammarFor code) [.word "model", .group .round inner] a ↔
            IsEntry (grammarFor code) [.word "model", .group .round inner'] a := by
  have h : (grammarFor code).Local := Grammar.local_grammar _
  constructor
  · intro entries
    have content {known : List ModelArgument} {rest : Code} :
        (overCommas (furtherEntry (grammarFor code)) (code.length + 1) []).run code =
            .ok (known, rest) ↔
          rest = [] ∧ ∃ entries, Listed (IsEntry (grammarFor code)) code entries ∧
            known = entries.foldl (fun known a => known ++ [a]) [] :=
      run_overCommas (reads_furtherEntry h) (fun is => by cases is; nofun)
        (Nat.lt_succ_self code.length)
    rw [argumentsOf, bind_eq_ok_iff]
    constructor
    · rintro ⟨⟨known, rest⟩, read, answer⟩
      cases answer
      obtain ⟨rfl, entries, list, rfl⟩ := content.1 read
      rw [foldl_further]
      exact list
    · intro list
      refine ⟨(entries, []), content.2 ⟨rfl, entries, list, ?_⟩, rfl⟩
      rw [foldl_further]
      rfl
  · intro inner inner' settings settings' list list' sameTypes sameNames a
    rw [isEntry_iff h, isEntry_iff h, entryContent_of_listed h list,
      entryContent_of_listed h list', sameTypes, sameNames]

/-- Settings of an entry, the type first. -/
def typeFirst : Code :=
  [.word "ty", .punct '=' false, .word "u8", .punct ',' false, .word "name", .punct '=' false,
    .literal "\"byte\""]

/-- The same settings, the name first and with a comma behind the last. -/
def nameFirst : Code :=
  [.word "name", .punct '=' false, .literal "\"byte\"", .punct ',' false, .word "ty",
    .punct '=' false, .word "u8", .punct ',' false]

/-- Two entries. -/
def bothOrders : Code :=
  [.word "model", .group .round typeFirst, .punct ',' false, .word "model",
    .group .round nameFirst]

theorem isSetting_byte {g : Grammar} (h : (g.type true).whole? [.word "u8"] =
      some (.path false [.plain "u8"])) :
    Listed (IsSetting g) typeFirst [.type (.path false [.plain "u8"]), .name "byte"] ∧
      Listed (IsSetting g) nameFirst [.name "byte", .type (.path false [.plain "u8"])] := by
  have type : IsSetting g [.word "ty", .punct '=' false, .word "u8"] _ := .type h
  have name : IsSetting g [.word "name", .punct '=' false, .literal "\"byte\""] (.name "byte") :=
    .name (by decide +kernel)
  exact ⟨.cons type (.last name), .cons name (.cons type .nil)⟩

theorem argumentsOf_bothOrders :
    let entry : ModelArgument := { type := .path false [.plain "u8"], name := some "byte" }
    argumentsOf bothOrders = .ok [entry, entry] ∧ ∀ a,
      IsEntry (grammarFor bothOrders) [.word "model", .group .round typeFirst] a ↔
        IsEntry (grammarFor bothOrders) [.word "model", .group .round nameFirst] a := by
  obtain ⟨list, list'⟩ := isSetting_byte (g := grammarFor bothOrders) rfl
  have first := IsEntry.model list rfl
  have second := IsEntry.model list' rfl
  exact ⟨((argumentsOf_eq_ok_iff bothOrders).1 _).2 (.cons first (.last second)),
    (argumentsOf_eq_ok_iff bothOrders).2 _ _ _ _ list list' rfl rfl⟩

end Concretize.Expansion
