import Concretize.TypeRef

/-!
# Where the placeholder occurs in a type

`TypeRef.Mentions` is the occurrence of the placeholder in a type tree, at the top or below;
`TypeRef.Nests` is its occurrence inside a type argument only.

* `mentionsPlaceholder_iff`, `nestsPlaceholder_iff`: the tests that specialization runs decide
  exactly these two relations, on trees of any depth.
* `mentions_toRef`: a type that a binding names mentions the placeholder only by nesting it, since
  it is never the placeholder itself.
-/
namespace Concretize.TypeRef

/-- The placeholder occurs in the type: as the whole type, or in an argument at any depth. -/
inductive Mentions : TypeRef → Prop where
  | bare : Mentions .placeholder
  | argument {path : QualifiedName} {arguments : List TypeRef} {nullable : Bool} {t : TypeRef} :
      t ∈ arguments → Mentions t → Mentions (.concrete path arguments nullable)

/-- The placeholder occurs inside a type argument. The bare placeholder is not nested. -/
def Nests (t : TypeRef) : Prop := t ≠ .placeholder ∧ t.Mentions

theorem mentions_concrete {path : QualifiedName} {arguments : List TypeRef} {nullable : Bool} :
    (concrete path arguments nullable).Mentions ↔ ∃ t ∈ arguments, t.Mentions := by
  constructor
  · rintro (_ | ⟨ht, hm⟩)
    exact ⟨_, ht, hm⟩
  · rintro ⟨t, ht, hm⟩
    exact .argument ht hm

mutual

/-- The test for the placeholder finds it at every depth, and nothing else. -/
theorem mentionsPlaceholder_iff : ∀ t : TypeRef, t.mentionsPlaceholder = true ↔ t.Mentions
  | .placeholder => ⟨fun _ => .bare, fun _ => rfl⟩
  | .concrete _ arguments _ => by
    rw [mentions_concrete, mentionsPlaceholder]
    exact anyMentions_iff arguments

theorem anyMentions_iff : ∀ ts : List TypeRef,
    mentionsPlaceholder.anyMentions ts = true ↔ ∃ t ∈ ts, t.Mentions
  | [] => by simp [mentionsPlaceholder.anyMentions]
  | t :: ts => by
    rw [mentionsPlaceholder.anyMentions, Bool.or_eq_true, mentionsPlaceholder_iff t,
      anyMentions_iff ts]
    simp only [List.mem_cons, exists_eq_or_imp]

end

theorem nestsPlaceholder_iff (t : TypeRef) : t.nestsPlaceholder = true ↔ t.Nests := by
  cases t with
  | placeholder => simp [nestsPlaceholder, Nests]
  | concrete path arguments nullable =>
    simp [nestsPlaceholder, Nests, mentions_concrete, mentionsPlaceholder_iff]

theorem isPlaceholder_iff (t : TypeRef) : t.isPlaceholder = true ↔ t = .placeholder := by
  cases t <;> simp [isPlaceholder]

theorem toRef_ne_placeholder (t : TypeName) : t.toRef ≠ .placeholder := nofun

theorem mentions_toRef (t : TypeName) : t.toRef.Mentions ↔ t.toRef.Nests :=
  ⟨fun h => ⟨toRef_ne_placeholder t, h⟩, fun h => h.2⟩

end Concretize.TypeRef
