import Concretize.Proofs.Expansion

/-!
# Reading what was written

An expansion keeps attributes and types as texts and has them read again. What it relies on is a
property of the reader, `Reader.Rereads`: attributes and types that came out of a text can be read
back as they are written. A type is not always written by its own tokens, since a path is taken
apart and put together again.

* `legible_markerOf`: so the annotation of an attribute that was read is legible.
* `reads_toName`: so the type of a model is legible, unless the placeholder occurs in it.
-/
namespace Concretize.Expansion

open Code

variable [Reader]

/-! ## What is relied on -/

/-- An attribute that came out of a text. -/
def Attribute.FromText (a : Attribute) : Prop :=
  ∃ text all, Reader.attributes text = some all ∧ a ∈ all

/-- The arguments of a segment in angle brackets. -/
def Segment.arguments : Code.Segment → List Argument
  | .applied _ _ arguments _ => arguments
  | _ => []

/-- A type that came out of a text, by itself or as a part of another type. -/
inductive TypeForm.FromText : TypeForm → Prop where
  | whole {text : String} {t : TypeForm} (h : Reader.type text = some t) : FromText t
  | inner {t : TypeForm} (h : FromText (.paren t)) : FromText t
  | argument {leading : Bool} {segments : List Code.Segment} {s : Code.Segment} {t : TypeForm}
      (h : FromText (.path leading segments)) (hs : s ∈ segments)
      (ht : .type t ∈ Segment.arguments s) : FromText t

/-- An attribute as it is written: tokens between brackets stand in parentheses. -/
def Attribute.written (a : Attribute) : String :=
  "#[" ++ a.path.text ++
    (match a.form with
      | .bare => ""
      | .list _ tokens => "(" ++ tokens.text ++ ")"
      | .value expression => " = " ++ expression.text) ++ "]"

/-- A type whose text can be read. -/
def Legible (t : TypeRef) : Prop := (Reader.type t.sourceText).isSome

/-- What came out of a text can be read again as it is written. -/
structure Reader.Rereads : Prop where
  /-- An attribute can be written by its tokens, whichever brackets stood around those it holds. -/
  attributeWritten {a : Attribute} (h : Attribute.FromText a) :
    (Reader.attributes (Attribute.written a)).isSome
  /-- A type can be written by its tokens, in standard spacing. -/
  typeWritten {t : TypeForm} (h : TypeForm.FromText t) : (Reader.type t.code.text).isSome
  /-- A path can be written with its arguments as these are written. -/
  pathWritten {leading : Bool} {segments : List Code.Segment} {names : List String}
    {arguments : List TypeRef} (h : TypeForm.FromText (.path leading segments))
    (taken : segmentsModel segments = some (names, arguments))
    (legible : ∀ t ∈ arguments, Legible t) :
    Legible (pathName leading segments (some (names, arguments))).toRef

/-! ## Annotations -/

/-- An annotation whose text can be read. -/
def LegibleMarker (m : Marker) : Prop := (Reader.attributes (markerText m)).isSome

omit [Reader] in
theorem markerText_markerOf (a : Attribute) : markerText (markerOf a) = Attribute.written a := by
  obtain ⟨path, form⟩ := a
  cases form <;> simp [markerText, markerOf, Attribute.written, String.append_assoc]

theorem legible_markerOf (reads : Reader.Rereads) {a : Attribute} (h : Attribute.FromText a) :
    LegibleMarker (markerOf a) := by
  rw [LegibleMarker, markerText_markerOf]
  exact reads.attributeWritten h

/-! ## Where the placeholder occurs -/

section Mentions
omit [Reader]

theorem mentions_append (w : String) (c d : Code) :
    (c ++ d).mentions w = (c.mentions w || d.mentions w) := by
  induction c with
  | nil => rfl
  | cons t c ih =>
    simp only [Code.mentions] at ih
    simp [Code.mentions, Token.listMentions, ih, Bool.or_assoc]

theorem mentions_of_segment {w : String} {segments : List Code.Segment} {s : Code.Segment}
    (hs : s ∈ segments) (h : s.code.mentions w) : (segmentsCode segments).mentions w := by
  induction segments with
  | nil => cases hs
  | cons s' rest ih =>
    cases rest with
    | nil =>
      rw [List.mem_singleton] at hs
      rwa [segmentsCode, ← hs]
    | cons s'' rest =>
      simp only [segmentsCode, mentions_append, Bool.or_eq_true]
      rcases List.mem_cons.1 hs with rfl | hs
      · exact .inl (.inl h)
      · exact .inr (ih hs)

theorem mentions_of_argument {w : String} {arguments : List Argument} {a : Argument}
    (ha : a ∈ arguments) (h : a.code.mentions w) : (argumentsCode arguments).mentions w := by
  induction arguments with
  | nil => cases ha
  | cons a' rest ih =>
    cases rest with
    | nil =>
      rw [List.mem_singleton] at ha
      rwa [argumentsCode, ← ha]
    | cons a'' rest =>
      simp only [argumentsCode, mentions_append, Bool.or_eq_true]
      rcases List.mem_cons.1 ha with rfl | ha
      · exact .inl (.inl h)
      · exact .inr (ih ha)

theorem mentions_name (s : Code.Segment) : s.code.mentions s.name := by
  cases s <;> simp [Segment.name, Segment.code, Code.mentions, Token.listMentions, Token.mentions]

/-- What an argument of a path mentions, the path mentions. -/
theorem mentions_path {w : String} {leading : Bool} {segments : List Code.Segment}
    {s : Code.Segment} {t : TypeForm} (hs : s ∈ segments) (ht : .type t ∈ Segment.arguments s)
    (h : t.code.mentions w) : (TypeForm.path leading segments).code.mentions w := by
  have inside : s.code.mentions w := by
    cases s with
    | applied name turbofish arguments trailing =>
      have found : (argumentsCode arguments).mentions w := mentions_of_argument ht h
      simp only [Segment.code, mentions_append, found, Bool.or_true, Bool.true_or]
    | plain name => cases ht
    | called name signature => cases ht
  rw [TypeForm.code, mentions_append, mentions_of_segment hs inside, Bool.or_true]

/-- A type that does not mention the placeholder stays concrete. -/
theorem toRef_eq_toName : (t : TypeForm) → t.code.mentions placeholderWord = false →
    t.toRef = t.toName.toRef
  | .path leading segments, plain => by
    have other : ¬ namesPlaceholder segments := by
      intro payload
      obtain ⟨front, last, rfl, word, -⟩ := namesPlaceholder_iff.1 payload
      rw [TypeForm.code, mentions_append, Bool.or_eq_false_iff] at plain
      have found := mentions_of_segment (List.mem_append_right front (List.mem_singleton_self last))
        (mentions_name last)
      rw [word, plain.2] at found
      cases found
    rw [TypeForm.toRef, if_neg other, TypeForm.toName]
  | .paren inner, plain => by
    have inside : inner.code.mentions placeholderWord = false := by
      simpa [TypeForm.code, Code.mentions, Token.listMentions, Token.mentions] using plain
    rw [TypeForm.toRef, TypeForm.toName, toRef_eq_toName inner inside]
  | .compound pieces, plain => by rw [TypeForm.toRef, TypeForm.toName]

end Mentions

/-! ## The type of a model -/

section Arguments
omit [Reader]

/-- The arguments of a path are those of its last segment. -/
theorem arguments_of_segmentsModel : {segments : List Code.Segment} → {names : List String} →
    {arguments : List TypeRef} → segmentsModel segments = some (names, arguments) →
    ∃ s ∈ segments, argumentsModel (Segment.arguments s) = some arguments
  | [], _, _, h => by cases h
  | [s], names, arguments, h => by
    refine ⟨s, List.mem_singleton_self s, ?_⟩
    cases s with
    | plain name =>
      cases h
      rfl
    | applied name turbofish inner trailing =>
      rw [segmentsModel, Segment.model, Option.map_eq_some_iff] at h
      obtain ⟨refs, taken, same⟩ := h
      cases same
      exact taken
    | called name signature => cases h
  | s :: s' :: rest, names, arguments, h => by
    simp only [segmentsModel] at h
    split at h
    · obtain ⟨⟨names', refs⟩, taken, same⟩ := Option.map_eq_some_iff.1 h
      cases same
      obtain ⟨last, inside, model⟩ := arguments_of_segmentsModel taken
      exact ⟨last, List.mem_cons_of_mem s inside, model⟩
    · cases h

theorem mem_argumentsModel {arguments : List Argument} {refs : List TypeRef}
    (h : argumentsModel arguments = some refs) {r : TypeRef} (hr : r ∈ refs) :
    ∃ t, .type t ∈ arguments ∧ r = t.toRef := by
  induction arguments generalizing refs with
  | nil =>
    cases h
    cases hr
  | cons a rest ih =>
    rw [argumentsModel] at h
    split at h
    · next first others model models =>
      cases h
      rcases List.mem_cons.1 hr with rfl | hr
      · cases a with
        | type t =>
          cases model
          exact ⟨t, List.mem_cons_self, rfl⟩
        | lifetime name => cases model
        | other pieces => cases model
      · obtain ⟨t, inside, same⟩ := ih models hr
        exact ⟨t, List.mem_cons_of_mem a inside, same⟩
    · cases h

theorem sourceText_verbatimName {code : Code} (plain : code.mentions placeholderWord = false) :
    (verbatimName code).toRef.sourceText = code.text := by
  simp [verbatimName, plain, TypeName.toRef, TypeRef.sourceText, TypeRef.sourceText.argumentsText]

theorem sizeOf_argument {segments : List Code.Segment} {s : Code.Segment} {t : TypeForm}
    (hs : s ∈ segments) (ht : .type t ∈ Segment.arguments s) : sizeOf t < sizeOf segments := by
  have outer := List.sizeOf_lt_of_mem hs
  cases s with
  | applied name turbofish arguments trailing =>
    have inner : sizeOf (Argument.type t) < sizeOf arguments := List.sizeOf_lt_of_mem ht
    simp only [Argument.type.sizeOf_spec, Code.Segment.applied.sizeOf_spec] at inner outer
    omega
  | plain name => cases ht
  | called name signature => cases ht

end Arguments

/-- The type of a model can be read from its text. By recursion on the type: a path is written with
its arguments, whatever else there is by its tokens. -/
theorem reads_toName (reads : Reader.Rereads) : (t : TypeForm) → TypeForm.FromText t →
    t.code.mentions placeholderWord = false → Legible t.toName.toRef
  | .path leading segments, given, plain => by
    rw [TypeForm.toName]
    cases taken : segmentsModel segments with
    | none =>
      rw [pathName, Legible, sourceText_verbatimName plain]
      exact reads.typeWritten given
    | some model =>
      obtain ⟨names, arguments⟩ := model
      obtain ⟨s, hs, models⟩ := arguments_of_segmentsModel taken
      refine reads.pathWritten given taken fun r hr => ?_
      obtain ⟨t, ht, rfl⟩ := mem_argumentsModel models hr
      have clean : t.code.mentions placeholderWord = false := by
        by_contra found
        rw [Bool.not_eq_false] at found
        rw [mentions_path hs ht found] at plain
        cases plain
      rw [toRef_eq_toName t clean]
      have smaller : sizeOf t < sizeOf segments := sizeOf_argument hs ht
      exact reads_toName reads t (given.argument hs ht) clean
  | .paren inner, given, plain => by
    have inside : inner.code.mentions placeholderWord = false := by
      simpa [TypeForm.code, Code.mentions, Token.listMentions, Token.mentions] using plain
    rw [TypeForm.toName]
    exact reads_toName reads inner given.inner inside
  | .compound pieces, given, plain => by
    rw [TypeForm.code] at plain
    rw [TypeForm.toName, Legible, sourceText_verbatimName plain]
    exact reads.typeWritten given
termination_by t => sizeOf t

end Concretize.Expansion
