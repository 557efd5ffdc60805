import Concretize.Proofs.Decoding

/-!
# Edited values

A text need not say a value as it would be written. In the objects that stand for records, members
may be left out that only repeat the default of their field, members may stand in another order, and
members of no field may stand among them. `Document` is a value with what its containers are for,
and `Edited d r` says that `r` comes from the document `d` by such edits. The object of a choice is
no record: it has to stay as it is.

* `conveys_leaf`, `conveys_list`, `conveys_nullable`, `conveys_choice`: each combinator decodes the
  edited forms of a document (`Conveys`) as it decodes the document.
* `conveys_record`: a record is decoded from each edited form of its members.
-/
namespace Concretize.Json

/-! ## Documents -/

/-- A value with what its containers are for. -/
inductive Document where
  | leaf (value : Json)
  | list (items : List Document)
  /-- A choice that carries a value. -/
  | choice (label : String) (content : Document)
  /-- A record: the names of its fields, and its members as they are written. The flag tells which
  of these only repeat the default of their field. -/
  | record (fields : List String) (members : List (String × Bool × Document))

/-- The value alone. -/
def Document.toJson : Document → Json
  | .leaf value => value
  | .list items => .array (toJsons items)
  | .choice label content => .object [(label, content.toJson)]
  | .record _ members => .object (memberJsons members)
where
  /-- The values of the items of a list. -/
  toJsons : List Document → List Json
    | [] => []
    | d :: ds => d.toJson :: toJsons ds
  /-- The members of a record without their flags. -/
  memberJsons : List (String × Bool × Document) → List (String × Json)
    | [] => []
    | (name, _, d) :: members => (name, d.toJson) :: memberJsons members

/-- A member of no field. -/
def Foreign (fields : List String) (e : Except Category String × Reading) : Prop :=
  ∃ key, e.1 = .ok key ∧ key ∉ fields

mutual

/-- What a text may say instead of a document. -/
inductive Edited : Document → Reading → Prop where
  | leaf (value : Json) : Edited (.leaf value) (reading value)
  | list {items : List Document} {rs : List Reading} (h : EditedItems items rs) :
      Edited (.list items) (.array rs .closed)
  | choice {label : String} {content : Document} {r : Reading} (h : Edited content r) :
      Edited (.choice label content) (.object [(.ok label, r)] .closed)
  /-- Members are left out, others are added under names of no field, and all are reordered. -/
  | record {fields : List String} {members : List (String × Bool × Document)}
      {kept added all : List (Except Category String × Reading)} (h : Kept members kept)
      (foreign : ∀ e ∈ added, Foreign fields e) (order : all.Perm (kept ++ added)) :
      Edited (.record fields members) (.object all .closed)

/-- The items of a list, each edited. -/
inductive EditedItems : List Document → List Reading → Prop where
  | nil : EditedItems [] []
  | cons {d : Document} {r : Reading} {ds : List Document} {rs : List Reading} (h : Edited d r)
      (others : EditedItems ds rs) : EditedItems (d :: ds) (r :: rs)

/-- The members of a record that were not left out, each edited. -/
inductive Kept :
    List (String × Bool × Document) → List (Except Category String × Reading) → Prop where
  | nil : Kept [] []
  | keep {name : String} {spare : Bool} {d : Document} {r : Reading}
      {members : List (String × Bool × Document)} {kept : List (Except Category String × Reading)}
      (h : Edited d r) (others : Kept members kept) :
      Kept ((name, spare, d) :: members) ((.ok name, r) :: kept)
  | drop {name : String} {d : Document} {members : List (String × Bool × Document)}
      {kept : List (Except Category String × Reading)} (others : Kept members kept) :
      Kept ((name, true, d) :: members) kept

end

mutual

/-- Nothing has to be edited. -/
theorem edited_reading : ∀ d : Document, Edited d (reading d.toJson)
  | .leaf value => .leaf value
  | .list items => .list (editedItems_reading items)
  | .choice _ content => .choice (edited_reading content)
  | .record fields members => by
    have kept := kept_reading members
    exact .record kept (List.forall_mem_nil _) (List.append_nil _ ▸ List.Perm.refl _)

theorem editedItems_reading : ∀ ds : List Document,
    EditedItems ds (reading.readings (Document.toJson.toJsons ds))
  | [] => .nil
  | d :: ds => .cons (edited_reading d) (editedItems_reading ds)

theorem kept_reading : ∀ members : List (String × Bool × Document),
    Kept members (reading.memberReadings (Document.toJson.memberJsons members))
  | [] => .nil
  | (_, _, d) :: members => .keep (edited_reading d) (kept_reading members)

end

theorem toJsons_map {α : Type} (f : α → Document) (items : List α) :
    Document.toJson.toJsons (items.map f) = items.map fun a => (f a).toJson := by
  induction items with
  | nil => rfl
  | cons a items ih => rw [List.map_cons, Document.toJson.toJsons, ih, List.map_cons]

theorem Foreign.tail {name : String} {fields : List String} {e : Except Category String × Reading}
    (h : Foreign (name :: fields) e) : Foreign fields e := by
  obtain ⟨key, hkey, hn⟩ := h
  exact ⟨key, hkey, fun hm => hn (List.mem_cons_of_mem _ hm)⟩

theorem Foreign.ne {name : String} {fields : List String} {e : Except Category String × Reading}
    (h : Foreign (name :: fields) e) : e.1 ≠ .ok name := by
  obtain ⟨key, hkey, hn⟩ := h
  rw [hkey]
  rintro ⟨⟩
  exact hn List.mem_cons_self

theorem Kept.ne {name : String} {members : List (String × Bool × Document)}
    {kept : List (Except Category String × Reading)} (h : Kept members kept)
    (fresh : ∀ m ∈ members, m.1 ≠ name) : ∀ e ∈ kept, e.1 ≠ .ok name := by
  induction members generalizing kept with
  | nil =>
    cases h
    exact fun e he => nomatch he
  | cons m members ih =>
    rw [List.forall_mem_cons] at fresh
    cases h with
    | keep h others =>
      refine List.forall_mem_cons.2 ⟨fun hc => ?_, ih others fresh.2⟩
      exact fresh.1 (Except.ok.inj hc)
    | drop others => exact ih others fresh.2

/-! ## Decoding what was edited -/

section Conveying
variable {α β : Type} {bound : Nat} {decode : Decoder α} {d : Document} {a : α}

/-- At every depth below the bound into which the document fits, the decoder answers the value for
each edited form of the document that is JSON throughout. -/
def Conveys (bound : Nat) (decode : Decoder α) (d : Document) (a : α) : Prop :=
  ∀ r, Edited d r → skipFault r = none → ∀ depth < bound, d.toJson.nesting ≤ depth →
    decode depth r = .ok a

theorem conveys_leaf {v : Json} (h : Recovers bound decode v a) :
    Conveys bound decode (.leaf v) a := by
  intro r edited _ depth hd fits
  cases edited
  rw [h depth hd]
  exact if_pos fits

theorem Conveys.mono {limit : Nat} (h : Conveys bound decode d a) (hl : limit ≤ bound) :
    Conveys limit decode d a :=
  fun r edited sound depth hd => h r edited sound depth (Nat.lt_of_lt_of_le hd hl)

theorem Conveys.map (h : Conveys bound decode d a) (f : α → β) :
    Conveys bound (fun depth r => f <$> decode depth r) d (f a) := by
  intro r edited sound depth hd fits
  change f <$> decode depth r = _
  rw [h r edited sound depth hd fits]
  rfl

theorem conveys_items {document : α → Document} {items : List α}
    (h : ∀ a ∈ items, Conveys bound decode (document a) a) {rs : List Reading}
    (edited : EditedItems (items.map document) rs) (sound : ∀ r ∈ rs, skipFault r = none)
    {depth : Nat} (hd : depth < bound)
    (fits : ∀ v ∈ Document.toJson.toJsons (items.map document), v.nesting ≤ depth) :
    rs.mapM (decode depth) = .ok items := by
  induction items generalizing rs with
  | nil =>
    cases edited
    rfl
  | cons a items ih =>
    cases edited with
    | cons first others =>
      rw [List.forall_mem_cons] at h sound
      rw [List.map_cons, Document.toJson.toJsons, List.forall_mem_cons] at fits
      rw [List.mapM_cons, h.1 _ first sound.1 depth hd fits.1, ih h.2 others sound.2 fits.2]
      rfl

theorem conveys_list {document : α → Document} {items : List α}
    (h : ∀ a ∈ items, Conveys bound decode (document a) a) :
    Conveys bound (decodeList decode) (.list (items.map document)) items := by
  intro r edited sound depth hd fits
  cases edited with
  | @list _ rs edited =>
    rw [Document.toJson, nesting] at fits
    obtain ⟨depth, rfl⟩ := Nat.exists_eq_add_one_of_ne_zero (Nat.ne_of_gt (Nat.zero_lt_of_lt fits))
    rw [skipFault, Option.or_eq_none_iff, itemsFault_eq_none_iff] at sound
    rw [Nat.add_le_add_iff_right, deepest_le_iff] at fits
    have content := conveys_items h edited sound.1 (Nat.lt_of_succ_lt hd) fits
    simp only [decodeList, content, bind, Except.bind]
    rfl

/-- What is not null is decoded as before. -/
theorem conveys_nullable (present : ¬ Edited d .null) (h : Conveys bound decode d a) :
    Conveys bound (decodeNullable decode) d (some a) := by
  intro r edited sound depth hd fits
  have content := h r edited sound depth hd fits
  cases r with
  | null => exact absurd edited present
  | _ => simp [decodeNullable, content]

theorem conveys_choice {alternative? : String → Option (Alternative α)} {label : String}
    (hl : alternative? label = some (.carrying decode)) (h : Conveys bound decode d a) :
    Conveys (bound + 1) (decodeChoice alternative?) (.choice label d) a := by
  intro r edited sound depth hd fits
  cases edited with
  | @choice _ _ r edited =>
    simp only [Document.toJson, nesting, nesting.deepestMember, Nat.max_zero] at fits
    obtain ⟨depth, rfl⟩ := Nat.exists_eq_add_one_of_ne_zero (Nat.ne_of_gt (Nat.zero_lt_of_lt fits))
    rw [skipFault, Option.or_eq_none_iff, membersFault_eq_none_iff, List.forall_mem_singleton]
      at sound
    have content := h r edited sound.1 depth (Nat.lt_of_succ_lt_succ hd)
      (Nat.le_of_succ_le_succ fits)
    simp [decodeChoice, hl, content, bind, Except.bind]

/-! ## Records -/

variable {αs : List Type}

/-- The names of the fields of a record. -/
def Fields.names : {αs : List Type} → Fields αs → List String
  | _, .nil => []
  | _, .cons name _ _ rest => name :: rest.names

/-- The members of a document give the fields of a record their values, in the order of the fields.
One that repeats the default of its field is flagged, and one that is not written has it. -/
inductive Fields.Given (bound : Nat) :
    {αs : List Type} → Fields αs → List (String × Bool × Document) → Values αs → Prop where
  | nil : Given bound .nil [] ()
  | written {α : Type} {αs : List Type} {name : String} {decode : Decoder α} {default : Option α}
      {rest : Fields αs} {spare : Bool} {d : Document} {a : α}
      {members : List (String × Bool × Document)} {values : Values αs}
      (h : Conveys bound decode d a) (hs : spare = true → default = some a)
      (others : Given bound rest members values) :
      Given bound (.cons name decode default rest) ((name, spare, d) :: members) (a, values)
  | unwritten {α : Type} {αs : List Type} {name : String} {decode : Decoder α} {a : α}
      {rest : Fields αs} {members : List (String × Bool × Document)} {values : Values αs}
      (others : Given bound rest members values) :
      Given bound (.cons name decode (some a) rest) members (a, values)

theorem Fields.Given.names {fields : Fields αs} {members : List (String × Bool × Document)}
    {values : Values αs} (h : fields.Given bound members values) :
    ∀ m ∈ members, m.1 ∈ fields.names := by
  induction h with
  | nil => exact fun m hm => nomatch hm
  | written h hs others ih =>
    rintro m (_ | ⟨_, hm⟩)
    · exact List.mem_cons_self
    · exact List.mem_cons_of_mem _ (ih m hm)
  | unwritten others ih => exact fun m hm => List.mem_cons_of_mem _ (ih m hm)

/-- Members without a key leave the slot of that key alone. -/
theorem fillMembers_fresh {name : String} {default : Option α} {rest : Fields αs} {depth : Nat}
    {members : List (Except Category String × Reading)} (fresh : ∀ m ∈ members, m.1 ≠ .ok name)
    (slot : Option α) (slots : Draft αs) :
    (Fields.cons name decode default rest).fillMembers depth members (slot, slots) =
      (slot, ·) <$> rest.fillMembers depth members slots := by
  induction members generalizing slots with
  | nil => rfl
  | cons member members ih =>
    obtain ⟨key, value⟩ := member
    have ih := ih fun m hm => fresh m (List.mem_cons_of_mem _ hm)
    cases key with
    | error e => rfl
    | ok key =>
      have other : name ≠ key := fun he => fresh _ List.mem_cons_self (by rw [he])
      simp only [Fields.fillMembers, Fields.fill?, if_neg other, bind, Except.bind]
      cases rest.fill? key depth value slots with
      | none => cases skipFault value <;> simp [ih]
      | some filled => cases filled <;> simp [ih, Except.map]

/-- A field is met at one member, and the others fill the other fields. -/
theorem fillMembers_met {name : String} {default : Option α} {rest : Fields αs} {depth : Nat}
    {before after : List (Except Category String × Reading)} {r : Reading} {draft : Draft αs}
    (hv : decode depth r = .ok a) (fresh : ∀ m ∈ before ++ after, m.1 ≠ .ok name)
    (others : rest.fillMembers depth (before ++ after) rest.blank = .ok draft) :
    (Fields.cons name decode default rest).fillMembers depth (before ++ (.ok name, r) :: after)
      (none, rest.blank) = .ok (some a, draft) := by
  rw [List.forall_mem_append] at fresh
  rw [fillMembers_append] at others ⊢
  rw [fillMembers_fresh fresh.1]
  cases hf : rest.fillMembers depth before rest.blank with
  | error e =>
    rw [hf] at others
    cases others
  | ok slots =>
    rw [hf] at others
    have others : rest.fillMembers depth after slots = .ok draft := others
    change (Fields.cons name decode default rest).fillMembers depth ((.ok name, r) :: after)
      (none, slots) = _
    simp only [Fields.fillMembers, Fields.fill?, hv, bind, Except.bind, ↓reduceIte, Except.map,
      fillMembers_fresh fresh.2, others]
    rfl

theorem fillMembers_foreign {depth : Nat} {all : List (Except Category String × Reading)}
    (h : ∀ e ∈ all, Foreign [] e) (sound : ∀ e ∈ all, skipFault e.2 = none) :
    Fields.nil.fillMembers depth all () = .ok () := by
  induction all with
  | nil => rfl
  | cons e all ih =>
    obtain ⟨key, value⟩ := e
    rw [List.forall_mem_cons] at h sound
    obtain ⟨⟨name, rfl, -⟩, h⟩ := h
    have skipped : skipFault value = none := sound.1
    simp only [Fields.fillMembers, Fields.fill?, bind, Except.bind, skipped]
    exact ih h sound.2

theorem fillMembers_of_kept {fields : Fields αs} {members : List (String × Bool × Document)}
    {values : Values αs} (h : fields.Given bound members values) (names : fields.names.Nodup)
    {kept added all : List (Except Category String × Reading)} (hk : Kept members kept)
    (foreign : ∀ e ∈ added, Foreign fields.names e) (order : all.Perm (kept ++ added))
    (sound : ∀ e ∈ all, skipFault e.2 = none) {depth : Nat} (hd : depth < bound)
    (fits : ∀ m ∈ Document.toJson.memberJsons members, m.2.nesting ≤ depth) :
    ∃ draft, fields.complete? draft = some values ∧
      fields.fillMembers depth all fields.blank = .ok draft := by
  -- Field by field: its member, if it was kept, is taken out of `all`, and the rest is as before.
  induction h generalizing kept all with
  | nil =>
    cases hk
    exact ⟨(), rfl, fillMembers_foreign (fun e he => foreign e (order.mem_iff.1 he)) sound⟩
  | @written α αs name decode default rest spare d a members values h hs given ih =>
    obtain ⟨fresh, names⟩ := List.nodup_cons.1 names
    rw [Document.toJson.memberJsons, List.forall_mem_cons] at fits
    have elsewhere := fun e he => (foreign e he).tail
    have unmet {kept} (hk : Kept members kept) : ∀ e ∈ kept ++ added, e.1 ≠ .ok name :=
      List.forall_mem_append.2 ⟨hk.ne fun m hm he => fresh (he ▸ given.names m hm),
        fun e he => (foreign e he).ne⟩
    cases hk with
    | @keep _ _ _ r _ kept edited hk =>
      obtain ⟨before, after, rfl⟩ := List.append_of_mem (order.mem_iff.2 List.mem_cons_self)
      have order := (List.perm_middle.symm.trans order).cons_inv
      rw [List.forall_mem_append, List.forall_mem_cons, and_left_comm, ← List.forall_mem_append]
        at sound
      obtain ⟨draft, complete, filled⟩ := ih names hk elsewhere order sound.2 fits.2
      refine ⟨(some a, draft), by simp [Fields.complete?, complete], ?_⟩
      have content := h r edited sound.1 depth hd fits.1
      exact fillMembers_met content (fun e he => unmet hk e (order.mem_iff.1 he)) filled
    | drop hk =>
      obtain ⟨draft, complete, filled⟩ := ih names hk elsewhere order sound fits.2
      refine ⟨(none, draft), by simp [Fields.complete?, complete, hs rfl], ?_⟩
      rw [Fields.blank, fillMembers_fresh fun e he => unmet hk e (order.mem_iff.1 he), filled]
      rfl
  | @unwritten α αs name decode a rest members values given ih =>
    obtain ⟨fresh, names⟩ := List.nodup_cons.1 names
    have elsewhere := fun e he => (foreign e he).tail
    have unmet : ∀ e ∈ kept ++ added, e.1 ≠ .ok name :=
      List.forall_mem_append.2 ⟨hk.ne fun m hm he => fresh (he ▸ given.names m hm),
        fun e he => (foreign e he).ne⟩
    obtain ⟨draft, complete, filled⟩ := ih names hk elsewhere order sound fits
    refine ⟨(none, draft), by simp [Fields.complete?, complete], ?_⟩
    rw [Fields.blank, fillMembers_fresh fun e he => unmet e (order.mem_iff.1 he), filled]
    rfl

/-- A record is decoded from each edited form of its members. -/
theorem conveys_record {fields : Fields αs} {names : List String}
    {members : List (String × Bool × Document)} {build : Values αs → β} {b : β}
    (values : Values αs) (hb : build values = b) (hn : fields.names = names)
    (distinct : names.Nodup) (h : fields.Given bound members values) :
    Conveys bound (decodeRecord fields build) (.record names members) b := by
  subst hb hn
  intro r edited sound depth hd fits
  cases edited with
  | @record _ _ kept added all hk foreign order =>
    rw [Document.toJson, nesting] at fits
    obtain ⟨depth, rfl⟩ := Nat.exists_eq_add_one_of_ne_zero (Nat.ne_of_gt (Nat.zero_lt_of_lt fits))
    rw [skipFault, Option.or_eq_none_iff, membersFault_eq_none_iff] at sound
    rw [Nat.add_le_add_iff_right, deepestMember_le_iff] at fits
    obtain ⟨draft, complete, filled⟩ :=
      fillMembers_of_kept h distinct hk foreign order sound.1 (Nat.lt_of_succ_lt hd) fits
    simp only [decodeRecord, filled, complete, Ending.require, Ending.fault?, bind, Except.bind]

end Conveying

end Concretize.Json
