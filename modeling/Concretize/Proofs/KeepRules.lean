import Concretize.KeepRules
import Concretize.Proofs.Outcome
import Concretize.Proofs.QualifiedName
import Mathlib.Data.List.Forall2

/-!
# Keep rules and the classes that source files declare

A keep rule is of use only if it names a class that exists. The rule takes its names from the
declaration as written, the source file puts dots between all segments, so that the two agree
exactly on names without `::`.

* `directives_track`: for every variant of a generation, when its rule names the class that the
  source file declares, and when it lists the types of its constructor.
* `rustState_untracked`: a declaration with `::` in its name, whose rules keep no declared class.
-/
namespace Concretize

variable {s : Settings} {d : Declaration} {g : Generation}

/-! ## What is declared and what is kept -/

/-- The class that a source file declares for a nested type: package, type and nested type. -/
def SourceFile.binaryName (f : SourceFile) (v : SourceVariant) : String :=
  (match f.package with
    | some package => package ++ "." ++ f.name
    | none => f.name) ++ "$" ++ v.name

/-- The class that a rule keeps. -/
def KeepRule.target : KeepRule → String
  | .name target => target
  | .instance target => target
  | .constructor target _ => target

/-- The constructor types that a rule lists. -/
def KeepRule.types : KeepRule → List String
  | .constructor _ types => types
  | _ => []

/-- The parameters of the constructor that is written. -/
def GeneratedVariant.constructor (v : GeneratedVariant) : List Parameter :=
  if v.declaration.kind = .klass then v.declaration.parameters else []

/-- The type without its arguments and without its mark for null. -/
def TypeRef.bare : TypeRef → TypeRef
  | .placeholder => .placeholder
  | .concrete path _ _ => .concrete path [] false

/-- No `::` occurs in the path of the type. -/
def TypeRef.IsDotted : TypeRef → Prop
  | .placeholder => True
  | .concrete path _ _ => path.IsDotted

/-- The text is a bare type, then type arguments if there are any, then a mark if null is
admitted. -/
def Extends (bare text : String) : Prop :=
  ∃ arguments mark, text = bare ++ arguments ++ mark ∧
    (arguments = "" ∨ ∃ list, arguments = "<" ++ list ++ ">") ∧ (mark = "" ∨ mark = "?")

/-- How the rule of a directive stands to the variant that the source file of `h` declares. -/
structure Directive.Tracks (h : Hierarchy) (v : GeneratedVariant) (x : Directive) : Prop where
  target : x.rule.target = h.sourceFile.binaryName v.source ↔ h.name.IsDotted
  written : List.Forall₂ (fun p q => Extends p.type.bare.source q.type)
    v.constructor v.source.parameters
  types : List.Forall₂ (fun p t => t = p.type.bare.source ↔ p.type.IsDotted)
    v.constructor x.rule.types

/-! ## Names and types -/

theorem binaryName_sourceFile (h : Hierarchy) (v : GeneratedVariant) :
    h.sourceFile.binaryName v.source = h.name.classText ++ "$" ++ v.declaration.name := by
  unfold SourceFile.binaryName QualifiedName.classText
  rfl

theorem extends_source (t : TypeRef) : Extends t.bare.source t.source := by
  cases t with
  | placeholder => exact ⟨"", "", rfl, .inl rfl, .inl rfl⟩
  | concrete path arguments nullable =>
    refine ⟨if arguments.isEmpty then "" else
      "<" ++ ", ".intercalate (TypeRef.source.sources arguments) ++ ">",
      if nullable then "?" else "", ?_, ?_, ?_⟩
    · simp [TypeRef.bare, TypeRef.source]
    · cases arguments with
      | nil => exact .inl rfl
      | cons t ts => exact .inr ⟨_, rfl⟩
    · cases nullable with
      | false => exact .inl rfl
      | true => exact .inr rfl

theorem erased_eq_source_iff {t : TypeRef} : t.erased = t.bare.source ↔ t.IsDotted := by
  cases t with
  | placeholder => simp [TypeRef.erased, TypeRef.bare, TypeRef.source, TypeRef.IsDotted]
  | concrete path arguments nullable =>
    rw [TypeRef.IsDotted, ← dottedText_eq_text_iff, eq_comm]
    simp [TypeRef.erased, TypeRef.bare, TypeRef.source]

/-! ## Rules -/

theorem target_rule (x : Directive) : x.rule.target = x.target := by
  unfold Directive.rule
  split <;> rfl

theorem target_eq_binaryName_iff (h : Hierarchy) (v : GeneratedVariant) :
    h.variantBinaryName v.declaration = h.sourceFile.binaryName v.source ↔ h.name.IsDotted := by
  rw [binaryName_sourceFile, Hierarchy.variantBinaryName, QualifiedName.memberBinaryName,
    ← classText_eq_text_iff, eq_comm]
  simp only [← String.toList_inj, String.toList_append, List.append_cancel_right_eq]

/-- Only a class has a constructor to list the types of. -/
theorem types_rule (h : Hierarchy) (v : GeneratedVariant) :
    (⟨h.variantBinaryName v.declaration, v.declaration.kind, v.declaration.erasedParameters⟩ :
      Directive).rule.types = v.constructor.map (·.type.erased) := by
  unfold Directive.rule Variant.erasedParameters GeneratedVariant.constructor
  cases v.declaration.kind <;> rfl

theorem parameters_source (v : GeneratedVariant) :
    v.source.parameters = v.constructor.zipIdx.map fun (p, index) => p.source index := by
  unfold GeneratedVariant.source GeneratedVariant.constructor
  split <;> rfl

theorem forall₂_zipIdx {α : Type} (l : List α) (n : Nat) :
    List.Forall₂ (fun a p => p.1 = a) l (l.zipIdx n) := by
  induction l generalizing n with
  | nil => exact .nil
  | cons a l ih => exact .cons rfl (ih (n + 1))

theorem tracks_directive (h : Hierarchy) (v : GeneratedVariant) :
    Directive.Tracks h v ⟨h.variantBinaryName v.declaration, v.declaration.kind,
      v.declaration.erasedParameters⟩ where
  target := by
    rw [target_rule]
    exact target_eq_binaryName_iff h v
  written := by
    rw [parameters_source, List.forall₂_map_right_iff]
    refine (forall₂_zipIdx v.constructor 0).imp fun p q hq => ?_
    rw [← hq]
    exact extends_source q.1.type
  types := by
    rw [types_rule, List.forall₂_map_right_iff, List.forall₂_same]
    exact fun p _ => erased_eq_source_iff

/-- **Rules and declared classes.** The directives of a generation are those of its variants, in
order. The rule of each one names the class that the source file declares exactly if the name of
the hierarchy has no `::`, and lists a constructor type as the source file writes it, without
arguments and mark, exactly if the path of the type has none. -/
theorem directives_track (hp : s.process d = .generated g) :
    g.directives = g.hierarchies.flatMap Hierarchy.directives ∧
      ∀ h ∈ g.hierarchies, List.Forall₂ (Directive.Tracks h) h.variants h.directives := by
  obtain ⟨-, -, -, -, rfl⟩ := process_eq_generated_iff.1 hp
  refine ⟨rfl, fun h _ => ?_⟩
  rw [Hierarchy.directives, List.forall₂_map_right_iff, List.forall₂_same]
  exact fun v _ => tracks_directive h v

/-- A hierarchy named with `::`, for a text type named alike. -/
def rustState : Declaration where
  name := ⟨"app::state::UiState"⟩
  kind := .interface
  modifiers := [.isSealed]
  variants :=
    [{ name := "Success"
       kind := .klass
       parameters := [{ name := some "data", type := .placeholder }] }]
  models := some [{ type := { path := ⟨"std::string::String"⟩ } }]

/-- Two variants in dots, one of them with a type argument in `::` and a mark. -/
def dottedState : Declaration where
  name := ⟨"app.Load"⟩
  kind := .klass
  modifiers := [.isSealed]
  variants :=
    [{ name := "Done"
       kind := .klass
       parameters :=
        [{ name := none, type := .placeholder },
         { name := some "log"
           type := .concrete ⟨"kotlin.List"⟩ [.concrete ⟨"std::string::String"⟩ [] false] true }] },
     { name := "Idle", kind := .object }]
  models := some [{ type := { path := ⟨"app.User"⟩ } }]

theorem process_dottedState :
    ({} : Settings).process dottedState = .generated (({} : Settings).generation dottedState) :=
  process_of_bindings_eq_singleton (b := ⟨none, { path := ⟨"app.User"⟩ }⟩) (by decide)
    (by decide) rfl

theorem dottedState_tracks :
    ∃ g, ({} : Settings).process dottedState = .generated g ∧ g.directives.length = 2 ∧
      ∀ h ∈ g.hierarchies, List.Forall₂ (Directive.Tracks h) h.variants h.directives :=
  ⟨_, process_dottedState, by decide, (directives_track process_dottedState).2⟩

/-- The rule keeps a class that the source file does not declare, with a constructor that the
declared class does not have. -/
theorem rustState_untracked :
    ∃ g, ({} : Settings).process rustState = .generated g ∧
      g.directives.map Directive.rule =
        [.constructor "app::state::StringUiState$Success" ["std::string::String"]] ∧
      (g.hierarchies.flatMap fun h => h.variants.map fun v =>
        (h.sourceFile.binaryName v.source, v.source.parameters.map (·.type))) =
        [("app.state.StringUiState$Success", ["std.string.String"])] := by
  have h := process_of_bindings_eq_singleton (s := {}) (d := rustState)
    (b := ⟨none, { path := ⟨"std::string::String"⟩ }⟩) (by decide) (by decide) rfl
  exact ⟨_, h, by decide +kernel, by decide +kernel⟩

end Concretize
