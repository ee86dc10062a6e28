import DeclaredParams.Proofs.Parameter.Reading
import Mathlib.Data.List.Basic
import Mathlib.Tactic.SplitIfs

/-!
# The lists that can be declared

`Parameter.written` writes a parameter down again, with a zero for a default value that is no longer
known, and `writtenParameters` does so for a list. A parameter that a token declares is read back
from what is written (`Parameter.Declarable.classify_written`). In a list its name may hold neither a
comma nor the opener of a comment, which makes it `Parameter.Canonical`. The texts without comments
declare all lists of canonical parameters and no others (`parseParameterList_image`), and what is
read from such a text is read again from what is written.
-/

set_option autoImplicit false
set_option relaxedAutoImplicit false

namespace DeclaredParams

open Text

variable {raw : Text} {parameter : Parameter} {parameters : List Parameter}

/-! ### Parameters written down again -/

/-- The parameter as it can be declared: behind the rest marker, with some default value, or as a
name alone. -/
def Parameter.written (parameter : Parameter) : Text :=
  if parameter.isRest then restMarker ++ parameter.name
  else if parameter.hasDefault then parameter.name ++ [' ', '=', ' ', '0']
  else parameter.name

/-- The parameters of a list, a comma and a space between any two. -/
def writtenParameters (parameters : List Parameter) : Text :=
  [',', ' '].intercalate (parameters.map Parameter.written)

namespace Parameter

/-- A parameter that some token declares is declared by what is written. -/
theorem Declarable.classify_written (hdeclarable : parameter.Declarable) :
    classify parameter.written = some parameter := by
  obtain ⟨name, isRest, hasDefault⟩ := parameter
  cases isRest with
  | true =>
    cases hdeclarable.hasDefault_eq_false rfl
    have hstart : StartsClean (restMarker ++ name) := by
      intro character hhead
      rw [← Option.some.inj hhead]
      decide
    have hend : EndsClean (restMarker ++ name) := .append (by decide) hdeclarable.endsClean
    exact classify_of_restMarker (trim_of_clean hstart hend)
  | false =>
    have hname : trim name = name :=
      trim_of_clean (hdeclarable.startsClean rfl) hdeclarable.endsClean
    cases hasDefault with
    | true =>
      have hgap : trim (name ++ [' ']) = name :=
        (trim_append_right (show OnlyBlanks [' '] by decide)).trans hname
      have hequals : '=' ∉ name ++ [' '] := by
        simpa using hdeclarable.no_equals rfl
      have hread := classify_append_equals [' ', '0'] hequals
        (by rw [hgap]; exact hdeclarable.no_restMarker rfl)
      rw [hgap, List.append_assoc] at hread
      exact hread
    | false =>
      have hread := @classify_of_neither name (by rw [hname]; exact hdeclarable.ne_nil rfl rfl)
        (by rw [hname]; exact hdeclarable.no_restMarker rfl)
        (by rw [hname]; exact hdeclarable.no_equals rfl)
      rw [hname] at hread
      exact hread

/-- What a list without comments can declare: a parameter that some token declares, with a name that
neither divides the list nor opens a comment in it. -/
structure Canonical (parameter : Parameter) : Prop extends Declarable parameter where
  no_comma : ',' ∉ parameter.name
  no_opener : ¬ commentOpener <:+: parameter.name

/-- Writing a parameter down does not add a comma. -/
theorem comma_not_mem_written (hcomma : ',' ∉ parameter.name) : ',' ∉ parameter.written := by
  unfold written
  split_ifs
  · simp [restMarker, hcomma]
  · simp [hcomma]
  · exact hcomma

/-- Nor does it add an opener. -/
theorem opener_not_isInfix_written (hopener : ¬ commentOpener <:+: parameter.name) :
    ¬ commentOpener <:+: parameter.written := by
  unfold written
  split_ifs
  · exact not_pair_isInfix_append (by decide) hopener (Or.inl (by decide))
  · exact not_pair_isInfix_append hopener (by decide) (Or.inr (by decide))
  · exact hopener

end Parameter

/-! ### Lists of canonical parameters -/

/-- The parameters of a list without comments are canonical. -/
theorem canonical_of_mem (hraw : ¬ commentOpener <:+: raw)
    (hmem : parameter ∈ parseParameterList raw) : parameter.Canonical := by
  have hdeclarable := declarable_of_mem hmem
  obtain ⟨piece, hpiece, hclassify⟩ := mem_parseParameterList_iff.mp hmem
  rw [stripComments_eq_self hraw] at hpiece
  obtain ⟨hstretch, hcomma⟩ := piece_isInfix hpiece
  have hname := Parameter.name_isInfix_of_classify hclassify
  exact ⟨hdeclarable, fun hinside ↦ hcomma (hname.subset hinside),
    fun hopener ↦ hraw (hopener.trans (hname.trans hstretch))⟩

/-- No comment is opened where canonical parameters are written down. -/
theorem opener_not_isInfix_writtenParameters
    (hcanonical : ∀ parameter ∈ parameters, parameter.Canonical) :
    ¬ commentOpener <:+: writtenParameters parameters := by
  apply not_pair_isInfix_intercalate (by decide) (by decide)
  rw [List.forall_mem_map]
  intro parameter hmem
  exact Parameter.opener_not_isInfix_written (hcanonical parameter hmem).no_opener

/-- Canonical parameters are read back from what is written. -/
theorem parseParameterList_writtenParameters
    (hcanonical : ∀ parameter ∈ parameters, parameter.Canonical) :
    parseParameterList (writtenParameters parameters) = parameters := by
  have hcomma : ∀ token ∈ parameters.map Parameter.written, ',' ∉ token := by
    rw [List.forall_mem_map]
    intro parameter hmem
    exact Parameter.comma_not_mem_written (hcanonical parameter hmem).no_comma
  have hread :
      parameters.filterMap (Parameter.classify ∘ Parameter.written) = parameters.map id := by
    rw [List.filterMap_eq_map_iff_forall_eq_some]
    exact fun parameter hmem ↦ (hcanonical parameter hmem).classify_written
  rw [parseParameterList_of_no_comment (opener_not_isInfix_writtenParameters hcanonical),
    writtenParameters, tokenParameters_intercalate hcomma, List.filterMap_map, hread, List.map_id]

/-- What the texts without comments declare are exactly the lists of canonical parameters. Each of
these is read back from what is written, so reading, writing and reading again is reading. -/
theorem parseParameterList_image :
    (∀ parameters : List Parameter,
      (∃ raw, ¬ commentOpener <:+: raw ∧ parseParameterList raw = parameters) ↔
        ∀ parameter ∈ parameters, parameter.Canonical) ∧
    (∀ parameters : List Parameter, (∀ parameter ∈ parameters, parameter.Canonical) →
      ¬ commentOpener <:+: writtenParameters parameters ∧
        parseParameterList (writtenParameters parameters) = parameters) ∧
    (∀ raw : Text, ¬ commentOpener <:+: raw →
      parseParameterList (writtenParameters (parseParameterList raw)) =
        parseParameterList raw) := by
  refine ⟨?_, ?_, ?_⟩
  · intro parameters
    constructor
    · rintro ⟨raw, hraw, rfl⟩
      exact fun parameter ↦ canonical_of_mem hraw
    · intro hcanonical
      exact ⟨writtenParameters parameters, opener_not_isInfix_writtenParameters hcanonical,
        parseParameterList_writtenParameters hcanonical⟩
  · intro parameters hcanonical
    exact ⟨opener_not_isInfix_writtenParameters hcanonical,
      parseParameterList_writtenParameters hcanonical⟩
  · intro raw hraw
    exact parseParameterList_writtenParameters fun parameter ↦ canonical_of_mem hraw

/-- Rest names with a leading blank and an equals sign or without a character, a default value
without a name and a name that is almost a marker are all read back. -/
theorem parseParameterList_image_of_corners :
    ¬ commentOpener <:+: "... a=, =b,,..,...".toList ∧
      parseParameterList "... a=, =b,,..,...".toList =
        [.rest " a=".toList, .defaulted [], .plain "..".toList, .rest []] ∧
      parseParameterList "... a=,  = 0, .., ...".toList =
        [.rest " a=".toList, .defaulted [], .plain "..".toList, .rest []] := by
  have hraw : ¬ commentOpener <:+: "... a=, =b,,..,...".toList :=
    not_pair_isInfix_of_not_mem (by decide)
  have hread : parseParameterList "... a=, =b,,..,...".toList =
      [.rest " a=".toList, .defaulted [], .plain "..".toList, .rest []] := by
    decide +kernel
  have hwritten : writtenParameters
      [.rest " a=".toList, .defaulted [], .plain "..".toList, .rest []] =
        "... a=,  = 0, .., ...".toList := by
    decide +kernel
  have hagain := parseParameterList_image.2.2 _ hraw
  rw [hread, hwritten] at hagain
  exact ⟨hraw, hread, hagain⟩

end DeclaredParams
