import DeclaredParams.Proofs.Parameter.Token

/-!
# What a list can declare

`Proofs.Parameter.Token` says what the rules make of a token; here a parameter is given and the
question is which tokens declare it. `exists_of_classify` lists the three kinds of tokens, and
`Parameter.Declarable` says what follows of every parameter ever read (`declarable_of_classify`,
`declarable_of_mem`): none is both a rest parameter and a defaulted one, and only the name of a rest
parameter can start with a blank or with the rest marker. A name is a stretch of its token
(`name_isInfix_of_classify`) and made of characters of the list (`parseParameterList_subset`).
-/

set_option autoImplicit false
set_option relaxedAutoImplicit false

namespace DeclaredParams

open Text

variable {text raw piece : Text} {parameter : Parameter}

/-! ### The token behind a parameter -/

namespace Parameter

/-- A token that declares a parameter starts with the rest marker, or else has an equals sign, or
else is a name. -/
theorem exists_of_classify (hclassify : classify text = some parameter) :
    (∃ name, trim text = restMarker ++ name ∧ parameter = .rest name) ∨
    (∃ name value, trim text = name ++ '=' :: value ∧ '=' ∉ name ∧ ¬ restMarker <+: trim text ∧
      parameter = .defaulted (trim name)) ∨
    trim text ≠ [] ∧ '=' ∉ trim text ∧ ¬ restMarker <+: trim text ∧
      parameter = .plain (trim text) := by
  rcases classify_cases text with ⟨-, hnone⟩ | ⟨name, hsplit, hrest⟩ |
    ⟨name, value, hsplit, hequals, hmarker, hdefaulted⟩ | ⟨hne, hequals, hmarker, hplain⟩
  · rw [hclassify] at hnone
    cases hnone
  · rw [hclassify, Option.some.injEq] at hrest
    exact Or.inl ⟨name, hsplit, hrest⟩
  · rw [hclassify, Option.some.injEq] at hdefaulted
    exact Or.inr (Or.inl ⟨name, value, hsplit, hequals, hmarker, hdefaulted⟩)
  · rw [hclassify, Option.some.injEq] at hplain
    exact Or.inr (Or.inr ⟨hne, hequals, hmarker, hplain⟩)

/-- A name is a stretch of its token. -/
theorem name_isInfix_of_classify (hclassify : classify text = some parameter) :
    parameter.name <:+: text := by
  apply List.IsInfix.trans _ (trim_isInfix text)
  rcases exists_of_classify hclassify with ⟨name, hsplit, rfl⟩ | ⟨name, value, hsplit, -, -, rfl⟩ |
    ⟨-, -, -, rfl⟩
  · rw [hsplit]
    exact (List.suffix_append _ _).isInfix
  · rw [hsplit]
    exact List.IsInfix.trans (trim_isInfix name) (List.prefix_append _ _).isInfix
  · exact List.infix_rfl

/-- What every parameter that a token declares has in common: the rules trim what they read, but the
rest rule keeps the blanks behind the marker. -/
structure Declarable (parameter : Parameter) : Prop where
  /-- A rest parameter has no default value. -/
  hasDefault_eq_false : parameter.isRest = true → parameter.hasDefault = false
  endsClean : EndsClean parameter.name
  startsClean : parameter.isRest = false → StartsClean parameter.name
  /-- An equals sign belongs to the name of a rest parameter alone. -/
  no_equals : parameter.isRest = false → '=' ∉ parameter.name
  /-- Only the name of a rest parameter can start with one more marker. -/
  no_restMarker : parameter.isRest = false → ¬ restMarker <+: parameter.name
  /-- Only a plain name has to have a character. -/
  ne_nil : parameter.isRest = false → parameter.hasDefault = false → parameter.name ≠ []

theorem declarable_of_classify (hclassify : classify text = some parameter) :
    parameter.Declarable := by
  rcases exists_of_classify hclassify with ⟨name, hsplit, rfl⟩ |
    ⟨name, value, hsplit, hequals, hmarker, rfl⟩ | ⟨hne, hequals, hmarker, rfl⟩
  · have hend := endsClean_trim text
    rw [hsplit] at hend
    exact ⟨fun _ ↦ rfl, hend.of_append, nofun, nofun, nofun, nofun⟩
  · have hname : ¬ restMarker <+: trim name := by
      rw [← trim_of_clean (startsClean_trim text) (endsClean_trim text), hsplit,
        restMarker_isPrefix_trim_iff] at hmarker
      exact hmarker
    exact ⟨nofun, endsClean_trim name, fun _ ↦ startsClean_trim name,
      fun _ hmem ↦ hequals (trim_subset name hmem), fun _ ↦ hname, fun _ ↦ nofun⟩
  · exact ⟨nofun, endsClean_trim text, fun _ ↦ startsClean_trim text, fun _ ↦ hequals,
      fun _ ↦ hmarker, fun _ _ ↦ hne⟩

end Parameter

/-! ### The parameters of a list -/

/-- A piece between commas is a stretch of the text without a comma. -/
theorem piece_isInfix (hpiece : piece ∈ text.splitOn ',') : piece <:+: text ∧ ',' ∉ piece := by
  induction text using comma_induction with
  | single token htoken =>
    rw [List.splitOn_eq_singleton htoken, List.mem_singleton] at hpiece
    rw [hpiece]
    exact ⟨List.infix_rfl, htoken⟩
  | several first others hfirst ih =>
    rw [List.splitOn_append_cons_self_of_not_mem hfirst, List.mem_cons] at hpiece
    rcases hpiece with rfl | hlater
    · exact ⟨(List.prefix_append _ _).isInfix, hfirst⟩
    · obtain ⟨hstretch, hcomma⟩ := ih hlater
      have hbehind : others <:+: first ++ ',' :: others :=
        List.IsInfix.trans (List.suffix_cons _ _).isInfix (List.suffix_append _ _).isInfix
      exact ⟨List.IsInfix.trans hstretch hbehind, hcomma⟩

/-- The declared parameters are those of the pieces between the commas. -/
theorem mem_parseParameterList_iff :
    parameter ∈ parseParameterList raw ↔
      ∃ piece ∈ (stripComments raw).splitOn ',', Parameter.classify piece = some parameter := by
  rw [parseParameterList_eq, List.mem_filterMap]

/-- Names are made of characters of the list. -/
theorem parseParameterList_subset (hmem : parameter ∈ parseParameterList raw) :
    parameter.name ⊆ raw := by
  obtain ⟨piece, hpiece, hclassify⟩ := mem_parseParameterList_iff.mp hmem
  have hname := List.IsInfix.trans (Parameter.name_isInfix_of_classify hclassify)
    (piece_isInfix hpiece).1
  exact List.Subset.trans hname.subset (stripComments_subset raw)

/-- The parameters of a list are such as tokens declare. -/
theorem declarable_of_mem (hmem : parameter ∈ parseParameterList raw) :
    parameter.Declarable := by
  obtain ⟨piece, -, hclassify⟩ := mem_parseParameterList_iff.mp hmem
  exact Parameter.declarable_of_classify hclassify

end DeclaredParams
