import DeclaredParams.Proofs.Shape.Arrow
import DeclaredParams.Proofs.Shape.ClassDivision

/-!
# The shapes side by side

Classes and regular functions start with different keywords, so no text is both
(`capture_class_eq_none_or_capture_regular_eq_none`); only arrows compete with them, and on a line
without an arrow at most one shape captures (`eq_of_capture`). The lists of both end at the first
closing parenthesis (`subset_of_capture`). Two of the shapes read the first list or the first arrow
and are not concerned with what follows a callable (`capture_append`). Classes are the exception.
-/

set_option autoImplicit false
set_option relaxedAutoImplicit false

namespace DeclaredParams.Shape

open Text

variable {text list : Text}

/-! ### Shapes that exclude each other -/

/-- A class starts with its keyword. -/
theorem class_isPrefix_of_capture (hcapture : capture .classConstructor text = some list) :
    "class".toList <+: text := by
  obtain ⟨⟨blank, skipped, gap, raw, behind, rfl, -, -, -, -⟩, -⟩ :=
    capture_class_eq_some_iff.mp hcapture
  exact List.prefix_append _ _

/-- A regular function starts with its keyword. -/
theorem function_isPrefix_of_capture (hcapture : capture .regularFunction text = some list) :
    "function".toList <+: text := by
  obtain ⟨⟨head, raw, behind, rfl, -, -, -⟩, -⟩ := capture_regular_eq_some_iff.mp hcapture
  exact List.prefix_append _ _

/-- A text that starts with another letter is no class. -/
theorem capture_class_eq_none {first : Char} {others : Text} (hfirst : first ≠ 'c') :
    capture .classConstructor (first :: others) = none := by
  rw [Option.eq_none_iff_forall_ne_some]
  intro list hcapture
  have hkeyword := class_isPrefix_of_capture hcapture
  exact hfirst (List.cons_prefix_cons.mp hkeyword).1.symm

/-- No text is both a class and a regular function. -/
theorem capture_class_eq_none_or_capture_regular_eq_none (text : Text) :
    capture .classConstructor text = none ∨ capture .regularFunction text = none := by
  cases hclass : capture .classConstructor text with
  | none => exact Or.inl rfl
  | some list =>
    right
    rw [Option.eq_none_iff_forall_ne_some]
    intro other hregular
    obtain ⟨rest, rfl⟩ := class_isPrefix_of_capture hclass
    have hkeyword := function_isPrefix_of_capture hregular
    exact absurd (List.cons_prefix_cons.mp hkeyword).1 (by decide)

/-- On a line without an arrow only one shape can capture. -/
theorem eq_of_capture {first second : Shape} {other : Text} (htext : ¬ arrow <:+: text)
    (hfirst : first.capture text = some list) (hsecond : second.capture text = some other) :
    first = second := by
  have harrow := capture_arrow_eq_none htext
  rcases capture_class_eq_none_or_capture_regular_eq_none text with hclass | hregular <;>
    cases first <;> cases second <;> simp_all

/-! ### What a list holds -/

/-- A list is made of characters of the text, without a closing parenthesis, unless it is the list of
an arrow function, which ends at the arrow. -/
theorem subset_of_capture {shape : Shape} (hshape : shape ≠ .arrowFunction)
    (hcapture : shape.capture text = some list) : ')' ∉ list ∧ list ⊆ text := by
  cases shape with
  | arrowFunction => exact absurd rfl hshape
  | classConstructor =>
    obtain ⟨⟨blank, skipped, gap, raw, behind, rfl, -, -, -, hclosed⟩, -, rfl⟩ :=
      capture_class_eq_some_iff.mp hcapture
    refine ⟨fun hmem ↦ hclosed (trim_subset raw hmem), List.Subset.trans (trim_subset raw) ?_⟩
    unfold classText constructorText
    intro character hmem
    simp [hmem]
  | regularFunction =>
    obtain ⟨⟨head, raw, behind, rfl, -, -, hclosed⟩, rfl⟩ :=
      capture_regular_eq_some_iff.mp hcapture
    refine ⟨fun hmem ↦ hclosed (trim_subset raw hmem), List.Subset.trans (trim_subset raw) ?_⟩
    unfold regularText
    intro character hmem
    simp [hmem]

/-! ### What follows a callable -/

/-- Text put behind a callable does not change its list, unless it is a class, whose list is the one
of its last constructor. -/
theorem capture_append {shape : Shape} (hshape : shape ≠ .classConstructor)
    (hcapture : shape.capture text = some list) (behind : Text) :
    shape.capture (text ++ behind) = some list := by
  cases shape with
  | classConstructor => exact absurd rfl hshape
  | arrowFunction => exact capture_arrow_append hcapture behind
  | regularFunction => exact capture_regular_append hcapture behind

end DeclaredParams.Shape
