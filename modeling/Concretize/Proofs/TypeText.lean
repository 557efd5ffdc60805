import Concretize.SourceFile
import Concretize.Proofs.QualifiedName

/-!
# The two texts of a type

A type is shown in messages by `TypeRef.display`, with every path as it was given, and written into
a source file by `TypeRef.source`, which puts dots into one path after the other. Both go down the
same tree, and the second text is the first one with dots for all its `::`.

* `dotted_append`: dots are put into two texts put together as into each of them, unless the second
  begins with a colon.
* `source_eq_dotted_display`: the text of a source file, from the text of messages.
-/
namespace Concretize

variable {p q : List Char}

/-! ## Dots at a joint -/

theorem dotted_cons {c : Char} (h : c ≠ ':') : dotted (c :: q) = c :: dotted q := by
  rw [dotted]
  rintro rest rfl
  exact absurd rfl h

/-- No `::` straddles the joint if the second text does not begin with a colon. -/
theorem dotted_append (h : q.head? ≠ some ':') : dotted (p ++ q) = dotted p ++ dotted q := by
  fun_induction dotted p with
  | case1 rest ih => simp only [List.cons_append, dotted, ih]
  | case2 c rest single ih =>
    rw [List.cons_append, List.cons_append, ← ih]
    cases rest with
    | nil =>
      rw [List.nil_append, dotted]
      rintro rest rfl rfl
      exact h rfl
    | cons d rest =>
      rw [List.cons_append, dotted]
      rintro tail rfl hd
      cases hd
      exact single rest rfl rfl
  | case3 => rfl

/-- The text with dots for all its `::`. -/
def dottedString (s : String) : String := String.ofList (dotted s.toList)

theorem dottedString_append {s t : String} (h : t.toList.head? ≠ some ':') :
    dottedString (s ++ t) = dottedString s ++ dottedString t := by
  simp only [dottedString, String.toList_append, dotted_append h, String.ofList_append]

/-! ## Types -/

namespace TypeRef

/-- What stands behind a path or a type begins with a sign of its own. -/
theorem head?_displayArguments (ts : List TypeRef) :
    (display.displayArguments ts).toList.head? ≠ some ':' := by
  cases ts <;> simp [display.displayArguments]

theorem head?_displayRest (ts : List TypeRef) :
    (display.displayRest ts).toList.head? ≠ some ':' := by
  cases ts <;> simp [display.displayRest]

theorem dottedString_open (s : String) : dottedString ("<" ++ s) = "<" ++ dottedString s := by
  rw [← String.toList_inj]
  simp [dottedString, dotted_cons]

theorem dottedString_comma (s : String) : dottedString (", " ++ s) = ", " ++ dottedString s := by
  rw [← String.toList_inj]
  simp [dottedString, dotted_cons]

theorem dottedString_mark (nullable : Bool) :
    dottedString (if nullable then "?" else "") = if nullable then "?" else "" := by
  cases nullable <;> decide

mutual

theorem source_eq_dottedString : ∀ t : TypeRef, t.source = dottedString t.display
  | .placeholder => by decide
  | .concrete path arguments nullable => by
    have mark : (if nullable then "?" else "").toList.head? ≠ some ':' := by
      cases nullable <;> decide
    rw [source, display, dottedString_append mark,
      dottedString_append (head?_displayArguments arguments), dottedString_mark,
      ← arguments_eq_dottedString arguments]
    rfl

/-- The arguments in angle brackets. -/
theorem arguments_eq_dottedString : ∀ ts : List TypeRef,
    (if ts.isEmpty then "" else "<" ++ ", ".intercalate (source.sources ts) ++ ">") =
      dottedString (display.displayArguments ts)
  | [] => by decide
  | t :: ts => by
    have close : ">".toList.head? ≠ some ':' := by decide
    have closed : dottedString ">" = ">" := by decide
    rw [display.displayArguments, dottedString_append close,
      dottedString_append (head?_displayRest ts), dottedString_open, ← source_eq_dottedString t,
      closed, source.sources, intercalate_eq_dottedString t.source ts]
    simp only [List.isEmpty_cons, Bool.false_eq_true, if_false, String.append_assoc]

/-- The arguments behind a first one. -/
theorem intercalate_eq_dottedString : ∀ (first : String) (ts : List TypeRef),
    ", ".intercalate (first :: source.sources ts) =
      first ++ dottedString (display.displayRest ts)
  | first, [] => by
    rw [source.sources, String.intercalate_singleton, display.displayRest]
    exact (String.append_empty).symm
  | first, t :: ts => by
    rw [source.sources, String.intercalate_cons_cons, intercalate_eq_dottedString t.source ts,
      display.displayRest, dottedString_append (head?_displayRest ts), dottedString_comma,
      ← source_eq_dottedString t]
    simp only [String.append_assoc]

end

/-- **Text of a type.** Of every type, at any depth and with any texts as paths, a source file has
the text that messages show, with every `::` replaced by a dot, from left to right. -/
theorem source_eq_dotted_display (t : TypeRef) :
    t.source = String.ofList (dotted t.display.toList) :=
  source_eq_dottedString t

/-- Runs of colons end and begin at the joints. -/
example : (concrete ⟨"a:::"⟩ [concrete ⟨":b"⟩ [] true, concrete ⟨":"⟩ [] false] false).source =
    "a.:<:b?, :>" := by decide

end TypeRef

end Concretize
