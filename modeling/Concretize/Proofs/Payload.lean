import Concretize.Proofs.Rereading

/-!
# The payload in types of code

A field type becomes a type of the declaration: a path with type arguments by its structure, all
else by the text of its tokens. `Part.Bears` says where the payload occurs in the syntax of a type,
whichever of the two happens around it.

* `mentions_of_bears`: where the payload occurs, its word is among the tokens.
* `shows_of_bears`: what is taken over by its structure keeps the payload.
* `mentions_of_toRef`: no payload comes from elsewhere.
* `toRef_reveals`: so the payload is never lost, never invented, and bare only where it is the whole
  type.
-/
namespace Concretize.Expansion

open Code

/-! ## Where the payload occurs -/

/-- A part of a type: a type, or what a type is made of. -/
inductive Part where
  | type (t : TypeForm)
  | segment (s : Code.Segment)
  | argument (a : Argument)
  | piece (p : Piece)

/-- The part as code. -/
def Part.code : Part → Code
  | .type t => t.code
  | .segment s => s.code
  | .argument a => a.code
  | .piece p => p.code

/-- The payload occurs in a part, at any depth: as a type, or as a word among tokens that are kept
as they stand. -/
inductive Part.Bears : Part → Prop where
  | payload {t : TypeForm} (h : IsPayload t) : Bears (.type t)
  | word {t : Token} (h : t.mentions placeholderWord) : Bears (.piece (.token t))
  | segment {leading : Bool} {segments : List Code.Segment} {s : Code.Segment}
      (hs : s ∈ segments) (h : Bears (.segment s)) : Bears (.type (.path leading segments))
  | inner {t : TypeForm} (h : Bears (.type t)) : Bears (.type (.paren t))
  | compound {pieces : List Piece} {p : Piece} (hp : p ∈ pieces) (h : Bears (.piece p)) :
      Bears (.type (.compound pieces))
  | argument {name : String} {turbofish trailing : Bool} {arguments : List Argument} {a : Argument}
      (ha : a ∈ arguments) (h : Bears (.argument a)) :
      Bears (.segment (.applied name turbofish arguments trailing))
  | signature {name : String} {pieces : List Piece} {p : Piece} (hp : p ∈ pieces)
      (h : Bears (.piece p)) : Bears (.segment (.called name pieces))
  | typeArgument {t : TypeForm} (h : Bears (.type t)) : Bears (.argument (.type t))
  | otherArgument {pieces : List Piece} {p : Piece} (hp : p ∈ pieces) (h : Bears (.piece p)) :
      Bears (.argument (.other pieces))
  | typePiece {t : TypeForm} (h : Bears (.type t)) : Bears (.piece (.type t))
  | group {delimiter : Delimiter} {pieces : List Piece} {p : Piece} (hp : p ∈ pieces)
      (h : Bears (.piece p)) : Bears (.piece (.group delimiter pieces))

/-! ## Among the tokens -/

theorem mentions_of_piece {w : String} {pieces : List Piece} {p : Piece} (hp : p ∈ pieces)
    (h : p.code.mentions w) : (piecesCode pieces).mentions w := by
  induction pieces with
  | nil => cases hp
  | cons q rest ih =>
    rw [piecesCode, mentions_append, Bool.or_eq_true]
    rcases List.mem_cons.1 hp with rfl | hp
    · exact .inl h
    · exact .inr (ih hp)

theorem mentions_group {w : String} {delimiter : Delimiter} {code : Code} :
    Code.mentions w [.group delimiter code] = code.mentions w := by
  simp [Code.mentions, Token.listMentions, Token.mentions]

theorem mentions_of_namesPlaceholder {leading : Bool} {segments : List Code.Segment}
    (h : namesPlaceholder segments) :
    (TypeForm.path leading segments).code.mentions placeholderWord := by
  obtain ⟨front, last, rfl, word, -⟩ := namesPlaceholder_iff.1 h
  have inside : last ∈ front ++ [last] := List.mem_append_right front List.mem_cons_self
  rw [TypeForm.code, mentions_append, mentions_of_segment inside (word ▸ mentions_name last),
    Bool.or_true]

theorem mentions_of_isPayload {t : TypeForm} (h : IsPayload t) :
    t.code.mentions placeholderWord := by
  induction h with
  | path word bare =>
    exact mentions_of_namesPlaceholder (namesPlaceholder_iff.2 ⟨_, _, rfl, word, bare⟩)
  | paren _ ih => rwa [TypeForm.code, mentions_group]

theorem mentions_of_bears {p : Part} (h : p.Bears) : p.code.mentions placeholderWord := by
  induction h with
  | payload h => exact mentions_of_isPayload h
  | word h => simpa [Part.code, Piece.code, Code.mentions, Token.listMentions] using h
  | segment hs _ ih =>
    rw [Part.code, TypeForm.code, mentions_append, mentions_of_segment hs ih, Bool.or_true]
  | inner _ ih => rwa [Part.code, TypeForm.code, mentions_group]
  | compound hp _ ih => exact mentions_of_piece hp ih
  | argument ha _ ih =>
    have found := mentions_of_argument ha ih
    simp only [Part.code, Segment.code, mentions_append, found, Bool.or_true, Bool.true_or]
  | @signature name pieces p hp _ ih =>
    have found := mentions_of_piece hp ih
    rw [Part.code, Segment.code, ← List.singleton_append, mentions_append, found, Bool.or_true]
  | typeArgument _ ih => exact ih
  | otherArgument hp _ ih => exact mentions_of_piece hp ih
  | typePiece _ ih => exact ih
  | group hp _ ih =>
    rw [Part.code, Piece.code, mentions_group]
    exact mentions_of_piece hp ih

/-! ## In the structure -/

/-- The types that a part gives mention the placeholder. -/
def Part.Shows : Part → Prop
  | .type t => t.toRef.Mentions
  | .segment s => ∀ names refs, s.model = some (names, refs) → ∃ r ∈ refs, r.Mentions
  | .argument a => ∀ r, a.model = some r → r.Mentions
  | .piece _ => True

theorem verbatim_mentions_iff {code : Code} :
    (verbatimName code).toRef.Mentions ↔ code.mentions placeholderWord := by
  rw [TypeName.toRef, TypeRef.mentions_concrete, verbatimName]
  by_cases found : code.mentions placeholderWord
  · simpa [found] using TypeRef.Mentions.bare
  · simp [found]

theorem mem_of_argumentsModel {arguments : List Argument} {refs : List TypeRef} {a : Argument}
    (h : argumentsModel arguments = some refs) (ha : a ∈ arguments) :
    ∃ r ∈ refs, a.model = some r := by
  induction arguments generalizing refs with
  | nil => cases ha
  | cons b rest ih =>
    rw [argumentsModel] at h
    split at h
    · next first others model models =>
      cases h
      rcases List.mem_cons.1 ha with rfl | ha
      · exact ⟨first, List.mem_cons_self, model⟩
      · obtain ⟨r, hr, same⟩ := ih models ha
        exact ⟨r, List.mem_cons_of_mem first hr, same⟩
    · cases h

/-- Of a path that is taken over by its structure, the last segment gives the arguments, and the
others have none. -/
theorem segment_of_segmentsModel : {segments : List Code.Segment} → {names : List String} →
    {refs : List TypeRef} → segmentsModel segments = some (names, refs) →
    ∀ s ∈ segments, s.lacksArguments ∨ ∃ names, s.model = some (names, refs)
  | [], _, _, h => by cases h
  | [s], names, refs, h => by
    intro s' hs
    rw [List.mem_singleton.1 hs]
    exact .inr ⟨names, h⟩
  | s :: s' :: rest, names, refs, h => by
    simp only [segmentsModel] at h
    split at h
    · next lacks =>
      obtain ⟨⟨names', refs'⟩, taken, same⟩ := Option.map_eq_some_iff.1 h
      cases same
      rintro _ (_ | ⟨_, hs⟩)
      · exact .inl lacks
      · exact segment_of_segmentsModel taken _ hs
    · cases h

theorem not_bears_of_lacksArguments {s : Code.Segment} (lacks : s.lacksArguments) :
    ¬ (Part.segment s).Bears := by
  intro h
  cases h with
  | argument ha _ =>
    rw [Segment.lacksArguments, List.isEmpty_iff] at lacks
    exact absurd ha (lacks ▸ List.not_mem_nil)
  | signature _ _ => cases lacks

/-- What bears the payload shows the placeholder. By induction on where the payload occurs; a part
that is kept as tokens shows it since its word is among them. -/
theorem shows_of_bears {p : Part} (h : p.Bears) : p.Shows := by
  induction h with
  | payload h =>
    rw [Part.Shows, (toRef_eq_placeholder_iff _).2 h]
    exact .bare
  | word => trivial
  | @segment leading segments s hs h ih =>
    have bears : (Part.type (.path leading segments)).Bears := .segment hs h
    have found := mentions_of_bears bears
    rw [Part.Shows, TypeForm.toRef]
    split
    · exact .bare
    · cases taken : segmentsModel segments with
      | none => exact verbatim_mentions_iff.2 found
      | some model =>
        obtain ⟨names, refs⟩ := model
        rcases segment_of_segmentsModel taken s hs with lacks | ⟨names', model⟩
        · exact absurd h (not_bears_of_lacksArguments lacks)
        · exact TypeRef.mentions_concrete.2 (ih names' refs model)
  | inner _ ih => rwa [Part.Shows, TypeForm.toRef]
  | @compound pieces p hp h _ =>
    have found := mentions_of_bears (.compound hp h)
    rw [Part.Shows, TypeForm.toRef]
    exact verbatim_mentions_iff.2 found
  | argument ha _ ih =>
    intro names refs model
    rw [Segment.model, Option.map_eq_some_iff] at model
    obtain ⟨refs', taken, same⟩ := model
    cases same
    obtain ⟨r, hr, first⟩ := mem_of_argumentsModel taken ha
    exact ⟨r, hr, ih r first⟩
  | signature =>
    intro names refs model
    cases model
  | typeArgument _ ih =>
    rintro r ⟨⟩
    exact ih
  | otherArgument =>
    intro r model
    cases model
  | typePiece => trivial
  | group => trivial

/-! ## From nowhere else -/

/-- A placeholder comes from the word for it. By recursion on the type: a path hands on what its
arguments give. -/
theorem mentions_of_toRef : (t : TypeForm) → t.toRef.Mentions → t.code.mentions placeholderWord
  | .path leading segments, shown => by
    rw [TypeForm.toRef] at shown
    split at shown
    · next payload => exact mentions_of_namesPlaceholder payload
    · cases taken : segmentsModel segments with
      | none =>
        rw [taken] at shown
        exact verbatim_mentions_iff.1 shown
      | some model =>
        obtain ⟨names, refs⟩ := model
        rw [taken] at shown
        obtain ⟨r, hr, mentioned⟩ := TypeRef.mentions_concrete.1 shown
        obtain ⟨s, hs, models⟩ := arguments_of_segmentsModel taken
        obtain ⟨t, ht, rfl⟩ := mem_argumentsModel models hr
        have smaller : sizeOf t < sizeOf segments := sizeOf_argument hs ht
        exact mentions_path hs ht (mentions_of_toRef t mentioned)
  | .paren inner, shown => by
    rw [TypeForm.toRef] at shown
    rw [TypeForm.code, mentions_group]
    exact mentions_of_toRef inner shown
  | .compound pieces, shown => by
    rw [TypeForm.toRef] at shown
    exact verbatim_mentions_iff.1 shown
termination_by t => sizeOf t

/-! ## The payload in a type -/

/-- **The payload.** A type in which the payload occurs, at whatever depth, becomes the placeholder
or nests it, and it becomes the placeholder exactly if it is the payload itself, perhaps in
parentheses. A type whose tokens do not hold the word becomes one without a placeholder. -/
theorem toRef_reveals (t : TypeForm) :
    ((Part.type t).Bears → t.toRef = .placeholder ∨ t.toRef.Nests) ∧
    (t.toRef = .placeholder ↔ IsPayload t) ∧
    (t.code.mentions placeholderWord = false → ¬ t.toRef.Mentions) := by
  refine ⟨fun bears => ?_, toRef_eq_placeholder_iff t, fun plain shown => ?_⟩
  · have shown : t.toRef.Mentions := shows_of_bears bears
    by_cases bare : t.toRef = .placeholder
    · exact .inl bare
    · exact .inr ⟨bare, shown⟩
  · rw [mentions_of_toRef t shown] at plain
    cases plain

/-- A reference to a type. -/
def referenceTo (t : TypeForm) : TypeForm :=
  .compound [.token (.punct '&' false), .token (.word "mut"), .type t]

/-- A list of a type. -/
def listOf (t : TypeForm) : TypeForm := .path false [.applied "Vec" false [.type t] false]

theorem reference_reveals :
    let payload : TypeForm := .paren (.path false [.plain "Extensive"])
    let text : TypeForm := .path false [.plain "str"]
    let hidden := listOf (referenceTo (listOf payload))
    let plain := listOf (referenceTo text)
    (Part.type hidden).Bears ∧ (hidden.toRef = .placeholder ∨ hidden.toRef.Nests) ∧
      plain.code.mentions placeholderWord = false ∧ ¬ plain.toRef.Mentions := by
  intro payload text hidden plain
  have word : IsPayload (.path false ([] ++ [.plain "Extensive"])) := .path rfl rfl
  have whole : (Part.type payload).Bears := .payload (.paren word)
  have listed {t : TypeForm} (h : (Part.type t).Bears) : (Part.type (listOf t)).Bears :=
    .segment List.mem_cons_self (.argument List.mem_cons_self (.typeArgument h))
  have referred {t : TypeForm} (h : (Part.type t).Bears) : (Part.type (referenceTo t)).Bears :=
    .compound (p := .type t) (by simp) (.typePiece h)
  have bears : (Part.type hidden).Bears := listed (referred (listed whole))
  have silent : plain.code.mentions placeholderWord = false := by decide
  exact ⟨bears, (toRef_reveals hidden).1 bears, silent, (toRef_reveals plain).2.2 silent⟩

end Concretize.Expansion
