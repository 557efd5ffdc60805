import Concretize.Proofs.JsonText

/-!
# Decoding what was written

`Recovers bound decode v a` says what a decoder makes of the text of a value `v`: it answers `a` as
long as the containers of the text fit into the depth that is left, and otherwise refuses the text
as malformed. There is no third outcome, so a text that nests too deep is never taken for another
one.

* `recovers_nullable`, `recovers_list`, `recovers_plain`, `recovers_carrying`: each combinator keeps
  the property.
* `recovers_record`: a record keeps it for every order of its members, and also when members are
  left out whose fields have their defaults (`Fields.Hold`).
* `decodeAll_pretty`: for a whole text, at the depth limit.

The bound of `Recovers` is on the depth. Only decoders that recurse need it, and a choice that
carries a value raises it by one.
-/
namespace Concretize.Json

/-! ## Nesting -/

/-- How many containers of a value are open at once. -/
def nesting : Json → Nat
  | .array items => deepest items + 1
  | .object members => deepestMember members + 1
  | _ => 0
where
  /-- The deepest nesting among values. -/
  deepest : List Json → Nat
    | [] => 0
    | item :: items => max (nesting item) (deepest items)
  /-- The deepest nesting among members. -/
  deepestMember : List (String × Json) → Nat
    | [] => 0
    | (_, value) :: members => max (nesting value) (deepestMember members)

theorem deepest_le_iff {items : List Json} {limit : Nat} :
    nesting.deepest items ≤ limit ↔ ∀ v ∈ items, v.nesting ≤ limit := by
  induction items with
  | nil => simp [nesting.deepest]
  | cons item items ih => rw [nesting.deepest, Nat.max_le, ih, List.forall_mem_cons]

theorem deepestMember_le_iff {members : List (String × Json)} {limit : Nat} :
    nesting.deepestMember members ≤ limit ↔ ∀ m ∈ members, m.2.nesting ≤ limit := by
  induction members with
  | nil => simp [nesting.deepestMember]
  | cons member members ih =>
    rw [nesting.deepestMember, Nat.max_le, ih, List.forall_mem_cons]

theorem readings_eq_map (items : List Json) : reading.readings items = items.map reading := by
  induction items with
  | nil => rfl
  | cons item items ih => rw [reading.readings, ih, List.map_cons]

theorem memberReadings_eq_map (members : List (String × Json)) :
    reading.memberReadings members = members.map fun m => (.ok m.1, reading m.2) := by
  induction members with
  | nil => rfl
  | cons member members ih => rw [reading.memberReadings, ih, List.map_cons]

/-! ## Values within a limit -/

section Within
variable {α β γ : Type} {p q : Prop} [Decidable p] [Decidable q]

/-- The value if the text keeps the limit; otherwise the text is malformed. -/
def within (fits : Prop) [Decidable fits] (a : α) : Except Category α :=
  if fits then .ok a else .error .malformed

theorem within_congr (h : p ↔ q) (a : α) : within p a = within q a := by
  simp only [within, h]

theorem map_within (f : α → β) (a : α) : f <$> within p a = within p (f a) := by
  unfold within
  split <;> rfl

theorem within_bind {f : α → Except Category β} {a : α} {b : β} (h : f a = within q b) :
    within p a >>= f = within (p ∧ q) b := by
  by_cases hp : p
  · simp [within, hp, bind, Except.bind, h]
  · simp [within, hp, bind, Except.bind]

/-- A list of values is within the limit if all of them are. -/
theorem mapM_within {f : α → Except Category β} {g : α → β} {fits : α → Prop} [DecidablePred fits]
    {items : List α} (h : ∀ a ∈ items, f a = within (fits a) (g a)) :
    items.mapM f = within (∀ a ∈ items, fits a) (items.map g) := by
  induction items with
  | nil => rfl
  | cons a items ih =>
    have others := ih fun b hb => h b (List.mem_cons_of_mem _ hb)
    simp only [List.mapM_cons, h a List.mem_cons_self, others, bind_pure_comp]
    rw [within_bind (f := fun b => (b :: ·) <$> within _ _) (map_within (g a :: ·) (items.map g))]
    exact within_congr List.forall_mem_cons.symm _

/-- A value that is read between two others moves to the front: whichever of the limits is broken,
the text is malformed. -/
theorem bind_within_bind {x : Except Category α} {f : α → Except Category β} {b : β}
    (h : x >>= f = within q b) (g : β → γ) :
    (x >>= fun s => within p () >>= fun _ => g <$> f s) = within (p ∧ q) (g b) := by
  cases x with
  | ok s =>
    have hs : f s = within q b := h
    change (within p () >>= fun _ => g <$> f s) = _
    exact within_bind (by rw [hs, map_within])
  | error e =>
    have he : (.error e : Except Category β) = within q b := h
    unfold within at he
    split at he
    · cases he
    · next hq =>
      cases he
      simp [within, hq, bind, Except.bind]

end Within

/-! ## Recovery -/

section Recovery
variable {α β : Type} {bound : Nat} {decode : Decoder α} {v : Json} {a : α}

/-- At every depth below the bound, the decoder answers the value if the text fits, and otherwise
calls the text malformed. -/
def Recovers (bound : Nat) (decode : Decoder α) (v : Json) (a : α) : Prop :=
  ∀ depth < bound, decode depth (reading v) = within (v.nesting ≤ depth) a

theorem Recovers.mono {limit : Nat} (h : Recovers bound decode v a) (hl : limit ≤ bound) :
    Recovers limit decode v a :=
  fun depth hd => h depth (Nat.lt_of_lt_of_le hd hl)

theorem Recovers.map (h : Recovers bound decode v a) (f : α → β) :
    Recovers bound (fun depth r => f <$> decode depth r) v (f a) := by
  intro depth hd
  change f <$> decode depth (reading v) = _
  rw [h depth hd, map_within]

theorem recovers_string (s : String) : Recovers bound decodeString (.text s) s :=
  fun _ _ => rfl

theorem recovers_bool (b : Bool) : Recovers bound decodeBool (.bool b) b :=
  fun _ _ => rfl

theorem recovers_null : Recovers bound (decodeNullable decode) .null none :=
  fun _ _ => rfl

/-- What is not null is decoded as before. -/
theorem recovers_nullable (hv : v ≠ .null) (h : Recovers bound decode v a) :
    Recovers bound (decodeNullable decode) v (some a) := by
  intro depth hd
  have some_map : decodeNullable decode depth (reading v) = some <$> decode depth (reading v) := by
    cases v with
    | null => exact absurd rfl hv
    | _ => rfl
  rw [some_map, h depth hd, map_within]

theorem recovers_list {toJson : α → Json} {items : List α}
    (h : ∀ a ∈ items, Recovers bound decode (toJson a) a) :
    Recovers bound (decodeList decode) (.array (items.map toJson)) items := by
  intro depth hd
  cases depth with
  | zero => rfl
  | succ depth =>
    have content : (reading.readings (items.map toJson)).mapM (decode depth) =
        within (nesting.deepest (items.map toJson) ≤ depth) items := by
      have all := mapM_within (f := fun a => decode depth (reading (toJson a))) (g := id)
        fun a ha => h a ha depth (Nat.lt_of_succ_lt hd)
      rw [readings_eq_map, List.map_map, List.mapM_map]
      rw [List.map_id] at all
      exact all.trans (within_congr (by rw [deepest_le_iff, List.forall_mem_map]) _)
    simp only [reading, decodeList, content, nesting, Nat.add_le_add_iff_right]
    exact bind_pure _

/-! ## Choices -/

variable {alternative? : String → Option (Alternative α)} {label : String}

theorem recovers_plain (h : alternative? label = some (.plain a)) :
    Recovers bound (decodeChoice alternative?) (.text label) a := by
  intro depth _
  simp only [reading, decodeChoice, bind, Except.bind, h]
  rfl

theorem recovers_carrying (hl : alternative? label = some (.carrying decode))
    (h : Recovers bound decode v a) :
    Recovers (bound + 1) (decodeChoice alternative?) (.object [(label, v)]) a := by
  intro depth hd
  cases depth with
  | zero => rfl
  | succ depth =>
    have content := h depth (Nat.lt_of_succ_lt_succ hd)
    simp only [reading, reading.memberReadings, decodeChoice, hl, content, nesting,
      nesting.deepestMember, Nat.add_le_add_iff_right, Nat.max_zero, bind, Except.bind]
    by_cases hv : v.nesting ≤ depth <;> simp [within, hv]

/-! ## Records -/

/-- `fields.Hold bound members values`: each value is given by its field. The field is met at one
member, anywhere, whose text its decoder recovers, or it is left out and has its default. -/
inductive Fields.Hold (bound : Nat) :
    {αs : List Type} → Fields αs → List (String × Json) → Values αs → Prop where
  | nil : Hold bound .nil [] ()
  | met {α : Type} {αs : List Type} {name : String} {decode : Decoder α} {default : Option α}
      {rest : Fields αs} {before after : List (String × Json)} {v : Json} {a : α}
      {values : Values αs} (hv : Recovers bound decode v a)
      (fresh : ∀ m ∈ before ++ after, m.1 ≠ name)
      (others : Hold bound rest (before ++ after) values) :
      Hold bound (.cons name decode default rest) (before ++ (name, v) :: after) (a, values)
  | left {α : Type} {αs : List Type} {name : String} {decode : Decoder α} {a : α}
      {rest : Fields αs} {members : List (String × Json)} {values : Values αs}
      (fresh : ∀ m ∈ members, m.1 ≠ name) (others : Hold bound rest members values) :
      Hold bound (.cons name decode (some a) rest) members (a, values)

variable {αs : List Type}

/-- The field is met at the first member. -/
theorem Fields.Hold.head {name : String} {default : Option α} {rest : Fields αs}
    {members : List (String × Json)} {values : Values αs} (hv : Recovers bound decode v a)
    (fresh : ∀ m ∈ members, m.1 ≠ name) (others : rest.Hold bound members values) :
    (Fields.cons name decode default rest).Hold bound ((name, v) :: members) (a, values) :=
  @Fields.Hold.met bound α αs name decode default rest [] members v a values hv fresh others

theorem fillMembers_append (fields : Fields αs) (depth : Nat)
    (before after : List (Except Category String × Reading)) (draft : Draft αs) :
    fields.fillMembers depth (before ++ after) draft =
      fields.fillMembers depth before draft >>= fields.fillMembers depth after := by
  induction before generalizing draft with
  | nil => rfl
  | cons member before ih =>
    obtain ⟨key, value⟩ := member
    cases key with
    | error e => rfl
    | ok key =>
      simp only [List.cons_append, Fields.fillMembers, bind, Except.bind] at ih ⊢
      cases fields.fill? key depth value draft with
      | none => cases skipFault value <;> simp [ih]
      | some filled => cases filled <;> simp [ih]

/-- Members without a key leave the slot of that key alone. -/
theorem fillMembers_cons {name : String} {default : Option α} {rest : Fields αs} {depth : Nat}
    {members : List (String × Json)} (fresh : ∀ m ∈ members, m.1 ≠ name) (slot : Option α)
    (slots : Draft αs) :
    (Fields.cons name decode default rest).fillMembers depth (reading.memberReadings members)
        (slot, slots) =
      (slot, ·) <$> rest.fillMembers depth (reading.memberReadings members) slots := by
  induction members generalizing slots with
  | nil => rfl
  | cons member members ih =>
    obtain ⟨key, value⟩ := member
    have other : name ≠ key := (fresh _ List.mem_cons_self).symm
    have ih := ih fun m hm => fresh m (List.mem_cons_of_mem _ hm)
    simp only [reading.memberReadings, Fields.fillMembers, Fields.fill?, if_neg other, bind,
      Except.bind]
    cases rest.fill? key depth (reading value) slots with
    | none => cases skipFault (reading value) <;> simp [ih]
    | some filled => cases filled <;> simp [ih, Except.map]

theorem fillMembers_of_hold {fields : Fields αs} {members : List (String × Json)}
    {values : Values αs} (h : fields.Hold bound members values) {depth : Nat}
    (hd : depth < bound) :
    ∃ draft, fields.complete? draft = some values ∧
      fields.fillMembers depth (reading.memberReadings members) fields.blank =
        within (nesting.deepestMember members ≤ depth) draft := by
  induction h with
  | nil => exact ⟨(), rfl, rfl⟩
  | @left α αs name decode a rest members values fresh others ih =>
    obtain ⟨draft, complete, filled⟩ := ih
    refine ⟨(none, draft), by simp [Fields.complete?, complete], ?_⟩
    rw [Fields.blank, fillMembers_cons fresh, filled, map_within]
  | @met α αs name decode default rest before after v a values hv fresh others ih =>
    obtain ⟨draft, complete, filled⟩ := ih
    refine ⟨(some a, draft), by simp [Fields.complete?, complete], ?_⟩
    have freshBefore := fun m hm => fresh m (List.mem_append_left after hm)
    have freshAfter := fun m hm => fresh m (List.mem_append_right before hm)
    have here (slots : Draft αs) :
        (Fields.cons name decode default rest).fillMembers depth
            (reading.memberReadings ((name, v) :: after)) (none, slots) =
          within (v.nesting ≤ depth) () >>= fun _ =>
            (some a, ·) <$> rest.fillMembers depth (reading.memberReadings after) slots := by
      simp only [reading.memberReadings, Fields.fillMembers, Fields.fill?, hv depth hd, bind,
        Except.bind, ↓reduceIte]
      by_cases fits : v.nesting ≤ depth
      · simp [within, fits, Except.map, fillMembers_cons freshAfter]
      · simp [within, fits, Except.map]
    rw [memberReadings_eq_map, List.map_append, ← memberReadings_eq_map, ← memberReadings_eq_map,
      fillMembers_append] at filled ⊢
    rw [Fields.blank, fillMembers_cons freshBefore, bind_map_left]
    simp only [here, bind_within_bind filled]
    refine within_congr ?_ _
    simp only [deepestMember_le_iff, List.forall_mem_append, List.forall_mem_cons]
    exact and_left_comm

/-- A record is recovered from an object of its members in any order, and from one that leaves out
defaults. -/
theorem recovers_record {β : Type} {fields : Fields αs} {members : List (String × Json)}
    {build : Values αs → β} {b : β} (values : Values αs) (hb : build values = b)
    (h : fields.Hold bound members values) :
    Recovers bound (decodeRecord fields build) (.object members) b := by
  subst hb
  intro depth hd
  cases depth with
  | zero => rfl
  | succ depth =>
    obtain ⟨draft, complete, filled⟩ := fillMembers_of_hold h (Nat.lt_of_succ_lt hd)
    simp only [reading, decodeRecord, filled, nesting, Nat.add_le_add_iff_right]
    by_cases fits : nesting.deepestMember members ≤ depth
    · simp [within, fits, Ending.require, Ending.fault?, complete, bind, Except.bind]
    · simp [within, fits, bind, Except.bind]

/-! ## Whole texts -/

/-- Whether a whole text is decoded depends on its nesting alone. -/
theorem decodeAll_pretty (h : Recovers (depthLimit + 1) decode v a) :
    decodeAll decode v.pretty = within (v.nesting ≤ depthLimit) a := by
  simp only [decodeAll, read_pretty, h depthLimit (Nat.lt_succ_self _)]
  exact bind_pure _

end Recovery

end Concretize.Json
