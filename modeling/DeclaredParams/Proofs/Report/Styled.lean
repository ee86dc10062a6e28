import DeclaredParams.Report.Styled

/-!
# Styled reports with and without styles

Where no styles are written, a styled report is the plain one (`styled_false`). Where they are, every
line holds at least three escape sequences besides what the plain line holds
(`count_escape_plain_add_le`), so a report on some parameters shows whether styles were written
(`styled_true_ne_plain`).
-/

set_option autoImplicit false
set_option relaxedAutoImplicit false

namespace DeclaredParams.Report

/-- The events of one line without their styles are the plain line. -/
theorem flatMap_uncoloured_lineEvents (parameter : Parameter) :
    (lineEvents parameter).flatMap Event.uncoloured = plainLine parameter := by
  obtain ⟨name, isRest, hasDefault⟩ := parameter
  cases isRest <;> cases hasDefault <;>
    simp [lineEvents, nameEvents, defaultEvents, plainLine, Event.uncoloured]

theorem styled_false (parameters : List Parameter) : styled false parameters = plain parameters := by
  rw [styled, events, plain, List.flatMap_assoc]
  exact congrArg parameters.flatMap (funext flatMap_uncoloured_lineEvents)

/-- A line with styles sets at least two of them and resets one. -/
theorem count_escape_plainLine_add_le (parameter : Parameter) :
    (plainLine parameter).count '\x1b' + 3 ≤
      ((lineEvents parameter).flatMap Event.coloured).count '\x1b' := by
  obtain ⟨name, isRest, hasDefault⟩ := parameter
  cases isRest <;> cases hasDefault <;>
    simp [lineEvents, nameEvents, defaultEvents, plainLine, Event.coloured, Style.sequences,
      resetSequence, sequence, Colour.number, List.count_append] <;>
    omega

theorem count_escape_plain_add_le (parameters : List Parameter) :
    (plain parameters).count '\x1b' + 3 * parameters.length ≤
      (styled true parameters).count '\x1b' := by
  induction parameters with
  | nil => exact Nat.le_refl _
  | cons parameter rest ih =>
    have hline := count_escape_plainLine_add_le parameter
    have hplain : plain (parameter :: rest) = plainLine parameter ++ plain rest := rfl
    have hstyled : styled true (parameter :: rest) =
        (lineEvents parameter).flatMap Event.coloured ++ styled true rest :=
      List.flatMap_append
    rw [hplain, hstyled, List.count_append, List.count_append, List.length_cons]
    omega

/-- Styles make a difference to every report that is not empty. -/
theorem styled_true_ne_plain {parameters : List Parameter} (hsome : parameters ≠ []) :
    styled true parameters ≠ plain parameters := by
  intro hsame
  have hcount := count_escape_plain_add_le parameters
  have hpositive : 0 < parameters.length := List.length_pos_iff.mpr hsome
  rw [hsame] at hcount
  omega

end DeclaredParams.Report
