import Concretize.Proofs.Capital

/-!
# Where generated names live

A generated name is meant to stay in the package of its declaration and to say the model in front of
the simple name. It is kept as one text, so both hold only as far as the text is taken apart again
where it was put together.

* `fits_capitalizeFirst_iff`: capitalizing neither adds nor removes a separator.
* `generatedName_placed_iff`: a generated name lives where it is meant to, exactly if the name given
  to the model fits in front of the simple name (`QualifiedName.Fits`).
* `versionedFeed_misplaced`: a display name with a dot moves the hierarchy to another package.
-/
namespace Concretize

/-! ## Capitalized names -/

namespace Text

variable {c : Char}

/-- No separator has the character. -/
def IsWord (c : Char) : Prop := c ≠ '.' ∧ c ≠ ':'

theorem isWord_of_isHigh (h : IsHigh c) : IsWord c := by
  constructor <;> rintro rfl <;> exact absurd h (by decide)

theorem isWord_of_isLowercase (h : isLowercase c = true) : IsWord c := by
  constructor <;> rintro rfl <;> exact absurd h (by decide)

theorem isWord_of_mem_title {d : Char} (h : isLowercase c = true) (hd : d ∈ title c) : IsWord d := by
  rcases mem_title hd with rfl | hd
  · exact isWord_of_isLowercase h
  · exact isWord_of_isHigh hd

/-- Capitalizing exchanges what stands first, if that is a letter, and nothing else. -/
theorem capitalizeChars_cases (cs : List Char) :
    capitalizeChars cs = cs ∨ ∃ c rest, cs = c :: rest ∧ isLowercase c = true ∧
      capitalizeChars cs = title c ++ rest := by
  cases cs with
  | nil => exact .inl rfl
  | cons c rest =>
    rw [capitalizeChars]
    split
    · next h => exact .inr ⟨c, rest, rfl, h, rfl⟩
    · exact .inl rfl

/-- What is put in front of a text hides its first character and leaves its separators. -/
theorem joints_of_words {front : List Char} (some_word : front ≠ [])
    (words : ∀ d ∈ front, IsWord d) (rest : List Char) :
    (Separated (front ++ rest) ↔ Separated rest) ∧ (front ++ rest).head? ≠ some ':' ∧
      ((front ++ rest).getLast? = some ':' ↔ rest.getLast? = some ':') := by
  have noDot : '.' ∉ front := fun h => (words _ h).1 rfl
  have noColon : ':' ∉ front := fun h => (words _ h).2 rfl
  have last : front.getLast? ≠ some ':' := fun h => noColon (List.mem_of_mem_getLast? h)
  refine ⟨?_, ?_, ?_⟩
  · have whole : ¬ Separated front := fun h => h.elim noDot fun h => noColon (h.subset (by simp))
    rw [separated_append]
    simp [whole, last]
  · rw [List.head?_append_of_ne_nil _ some_word]
    exact fun h => noColon (List.mem_of_mem_head? h)
  · rw [List.getLast?_append]
    cases rest.getLast? with
    | none => simpa using last
    | some c => rfl

/-- A capitalized text fits where the text fits. -/
theorem fits_capitalizeFirst_iff {n : QualifiedName} {s : String} :
    n.Fits (capitalizeFirst s) ↔ n.Fits s := by
  simp only [QualifiedName.fits_iff, capitalizeFirst, String.toList_ofList]
  rcases capitalizeChars_cases s.toList with same | ⟨c, rest, hs, lower, changed⟩
  · rw [same]
  · have title := joints_of_words (title_ne_nil c) (fun d hd => isWord_of_mem_title lower hd) rest
    have first := joints_of_words (List.cons_ne_nil c [])
      (fun d hd => List.mem_singleton.1 hd ▸ isWord_of_isLowercase lower) rest
    rw [changed, hs, ← List.singleton_append, title.1, title.2.2, first.1, first.2.2]
    simp only [title.2.1, first.2.1, ne_eq, not_false_eq_true, implies_true]

end Text

/-! ## Generated names -/

/-- The name given to a model: its display name, else the simple name of its type. -/
def Binding.givenName (b : Binding) : String := b.displayName?.getD b.type.simpleName

/-- **Place of a generated name.** A generated name lives in the package of its declaration, and its
simple name is that of the model in front of that of the declaration, exactly if the name given to
the model has no separator and makes none where it meets the package or the simple name. -/
theorem generatedName_placed_iff (d : Declaration) (b : Binding) :
    ((d.generatedName b).package? = d.name.package? ∧
      (d.generatedName b).simpleName = b.modelName ++ d.simpleName) ↔
      d.name.Fits b.givenName := by
  rw [← Text.fits_capitalizeFirst_iff, ← QualifiedName.admits_append_iff]
  exact QualifiedName.sibling_placed_iff

/-- A feed of one model, which is named together with its version. -/
def versionedFeed : Declaration where
  name := ⟨"app.Feed"⟩
  kind := .interface
  modifiers := [.isSealed]
  models := some [{ name := "v1.user", type := { path := ⟨"app.User"⟩ } }]

/-- The version ends up in the package, and the simple name is what is left. -/
theorem versionedFeed_misplaced :
    ∃ b ∈ versionedFeed.bindings,
      (versionedFeed.generatedName b).package? = some "app.V1" ∧
        versionedFeed.name.package? = some "app" ∧
      (versionedFeed.generatedName b).simpleName = "userFeed" ∧
        b.modelName ++ versionedFeed.simpleName = "V1.userFeed" :=
  ⟨⟨some "v1.user", { path := ⟨"app.User"⟩ }⟩, by decide, by decide +kernel, by decide,
    by decide +kernel, by decide +kernel⟩

end Concretize
