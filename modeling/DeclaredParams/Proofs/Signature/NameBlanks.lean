import DeclaredParams.Proofs.Parameter.Reading
import DeclaredParams.Signature.Inspect

/-!
# Blanks at the ends of names

Of the three rules two name a parameter by a trimmed text, while the rest rule keeps what stands
behind the marker as it is. A token is trimmed before the rules see it, so no name that is extracted
ends with a blank, and only the name of a rest parameter can start with one. It does where a blank
stands between the marker and the name (`BlankBehindMarker`): the names of a callable are free of
blanks at their ends exactly when no token of its list is written that way (`extract_name_blanks`).
-/

set_option autoImplicit false
set_option relaxedAutoImplicit false

namespace DeclaredParams

open Text

variable {raw : Text}

/-- The text between two commas is a rest parameter with a blank between the marker and the name. -/
def BlankBehindMarker (piece : Text) : Prop :=
  ∃ blank name, isBlank blank ∧ trim piece = Parameter.restMarker ++ blank :: name

/-- A name starts with a blank where its token has one behind the marker. -/
theorem startsClean_name_iff {piece : Text} {parameter : Parameter}
    (hclassify : Parameter.classify piece = some parameter) :
    StartsClean parameter.name ↔ ¬ BlankBehindMarker piece := by
  constructor
  · rintro hclean ⟨blank, name, hblank, htrim⟩
    have hrest := Parameter.classify_of_restMarker htrim
    rw [hclassify, Option.some.injEq] at hrest
    rw [hrest] at hclean
    have hstart := hclean blank rfl
    rw [hblank] at hstart
    cases hstart
  · intro hpiece
    cases hkind : parameter.isRest with
    | false => exact (Parameter.declarable_of_classify hclassify).startsClean hkind
    | true =>
      rcases Parameter.exists_of_classify hclassify with ⟨name, htrim, rfl⟩ |
        ⟨name, value, -, -, -, rfl⟩ | ⟨-, -, -, rfl⟩
      · intro character hhead
        obtain ⟨others, rfl⟩ := List.head?_eq_some_iff.mp hhead
        rw [← Bool.not_eq_true]
        exact fun hblank ↦ hpiece ⟨character, others, hblank, htrim⟩
      · cases hkind
      · cases hkind

/-- The names of a list start without a blank when no piece has one behind the marker. -/
theorem startsClean_names_iff :
    (∀ parameter ∈ parseParameterList raw, StartsClean parameter.name) ↔
      ∀ piece ∈ (stripComments raw).splitOn ',', ¬ BlankBehindMarker piece := by
  constructor
  · rintro hclean piece hpiece ⟨blank, name, hblank, htrim⟩
    have hclassify := Parameter.classify_of_restMarker htrim
    have hmem := mem_parseParameterList_iff.mpr ⟨piece, hpiece, hclassify⟩
    exact (startsClean_name_iff hclassify).mp (hclean _ hmem) ⟨blank, name, hblank, htrim⟩
  · intro hpieces parameter hmem
    obtain ⟨piece, hpiece, hclassify⟩ := mem_parseParameterList_iff.mp hmem
    exact (startsClean_name_iff hclassify).mpr (hpieces piece hpiece)

/-- The parameters of a callable are those of the list that recognises it. -/
theorem mem_extract_iff {shapes : ShapeSet} {source : Text} {parameter : Parameter} :
    parameter ∈ extract shapes source ↔
      ∃ found ∈ recognise shapes source, parameter ∈ parseParameterList found.raw := by
  rw [extract, inspect]
  cases recognise shapes source with
  | none => simp [Signature.ofRecognition?, Signature.empty]
  | some found => simp [Signature.ofRecognition?]

/-- No extracted name ends with a blank, and none but that of a rest parameter starts with one. All
names are free of both exactly when the list has no blank behind a rest marker. -/
theorem extract_name_blanks (shapes : ShapeSet) (source : Text) :
    (∀ parameter ∈ extract shapes source,
      EndsClean parameter.name ∧ (parameter.isRest = false → StartsClean parameter.name)) ∧
    ((∀ parameter ∈ extract shapes source,
        StartsClean parameter.name ∧ EndsClean parameter.name) ↔
      ∀ found ∈ recognise shapes source,
        ∀ piece ∈ (stripComments found.raw).splitOn ',', ¬ BlankBehindMarker piece) := by
  have hends : ∀ parameter ∈ extract shapes source, EndsClean parameter.name ∧
      (parameter.isRest = false → StartsClean parameter.name) := by
    intro parameter hmem
    obtain ⟨found, -, hparameter⟩ := mem_extract_iff.mp hmem
    have hdeclarable := declarable_of_mem hparameter
    exact ⟨hdeclarable.endsClean, hdeclarable.startsClean⟩
  refine ⟨hends, ?_⟩
  constructor
  · intro hclean found hfound
    apply startsClean_names_iff.mp
    intro parameter hmem
    exact (hclean parameter (mem_extract_iff.mpr ⟨found, hfound, hmem⟩)).1
  · intro hpieces parameter hmem
    obtain ⟨found, hfound, hparameter⟩ := mem_extract_iff.mp hmem
    exact ⟨startsClean_names_iff.mpr (hpieces found hfound) parameter hparameter,
      (hends parameter hmem).1⟩

/-- A blank behind the marker becomes part of the name. -/
theorem extract_name_blanks_of_marker :
    extract (.only .arrowFunction) "(... a) => a".toList = [.rest [' ', 'a']] ∧
      ¬ ∀ parameter ∈ extract (.only .arrowFunction) "(... a) => a".toList,
        StartsClean parameter.name ∧ EndsClean parameter.name := by
  refine ⟨by decide +kernel, ?_⟩
  rw [(extract_name_blanks _ _).2]
  intro hpieces
  have hpiece := hpieces ⟨.arrowFunction, "... a".toList⟩ (by decide +kernel) "... a".toList
    (by decide +kernel)
  exact hpiece ⟨' ', ['a'], by decide, by decide⟩

end DeclaredParams
