import DeclaredParams.Proofs.Text.Division
import DeclaredParams.Proofs.Text.Trimming
import DeclaredParams.Text.Comment

/-!
# Removal of comments, comment by comment

A text without a comment stays as it is (`stripComments_of_cut_eq_none`); otherwise it loses its
first comment and the removal goes on behind it (`stripComments_of_cut_eq_some`), so what is said of
texts is proved along their comments (`comment_induction`). `cutComment?_eq_some_iff` says which
comment is the first one and `stripComments_append_comment` removes it. A front without an opener
takes no part in the removal unless it ends with a slash (`stripComments_append_left`). Blanks
belong to no delimiter, so removal leaves them at both ends of a text
(`stripComments_append_blanks`, `stripComments_append_right`).
-/

set_option autoImplicit false
set_option relaxedAutoImplicit false

namespace DeclaredParams.Text

variable {text before after comment : Text}

/-! ### The two steps -/

/-- What has been kept so far stands in front of the rest. -/
theorem stripCommentsFrom_append (front kept text : Text) :
    stripCommentsFrom (kept ++ front) text = front.reverse ++ stripCommentsFrom kept text := by
  fun_induction stripCommentsFrom kept text with
  | case1 kept text hcut =>
    rw [stripCommentsFrom.eq_def]
    split
    · simp
    · simp_all
  | case2 kept text before after hcut ih =>
    rw [← ih, stripCommentsFrom.eq_def]
    split
    · simp_all
    · simp_all

/-- A text without a comment stays as it is. -/
theorem stripComments_of_cut_eq_none (hcut : cutComment? text = none) :
    stripComments text = text := by
  rw [stripComments, stripCommentsFrom.eq_def]
  split
  · rfl
  · simp_all

/-- A text with a comment loses the first one, and the removal goes on behind it. -/
theorem stripComments_of_cut_eq_some (hcut : cutComment? text = some (before, after)) :
    stripComments text = before ++ stripComments after := by
  have hstep : stripComments text = stripCommentsFrom (before.reverse ++ []) after := by
    rw [stripComments, stripCommentsFrom.eq_def]
    split
    · simp_all
    · simp_all
  rw [hstep, List.append_nil, ← List.nil_append before.reverse, stripCommentsFrom_append,
    List.reverse_reverse]
  rfl

/-- A statement holds of every text when it holds of those without a comment and goes over to a text
from what stands behind its first comment. -/
@[elab_as_elim]
theorem comment_induction {motive : Text → Prop}
    (plain : ∀ text, cutComment? text = none → motive text)
    (commented : ∀ text before after, cutComment? text = some (before, after) → motive after →
      motive text)
    (text : Text) : motive text := by
  induction hlength : text.length using Nat.strongRecOn generalizing text with
  | ind length ih =>
    cases hcut : cutComment? text with
    | none => exact plain text hcut
    | some parts =>
      have hshorter : parts.2.length < length := by
        rw [← hlength]
        exact length_of_cutComment?_eq_some hcut
      exact commented text parts.1 parts.2 hcut (ih parts.2.length hshorter parts.2 rfl)

/-! ### Where a comment stands -/

/-- A text without an opener has no comment. -/
theorem cutComment?_eq_none (htext : ¬ commentOpener <:+: text) : cutComment? text = none := by
  rw [cutComment?, cut?_eq_none_iff.mpr htext]

/-- The first comment goes from the first opener to the first closer behind it. -/
theorem cutComment?_append_comment (hbefore : ¬ commentOpener <:+: before)
    (hcomment : ¬ commentCloser <:+: comment) :
    cutComment? (before ++ (commentOpener ++ comment ++ commentCloser) ++ after) =
      some (before, after) := by
  have hopener :
      cut? commentOpener (before ++ (commentOpener ++ comment ++ commentCloser) ++ after) =
        some (before, comment ++ commentCloser ++ after) := by
    simpa [commentOpener] using cut?_pair (by decide) hbefore
  have hcloser :
      cut? commentCloser (comment ++ commentCloser ++ after) = some (comment, after) := by
    simpa [commentCloser] using cut?_pair (by decide) hcomment
  rw [cutComment?, hopener]
  simp only [hcloser]

/-- A text with a comment is a text without an opener, the comment and the text behind it. -/
theorem cutComment?_eq_some_iff :
    cutComment? text = some (before, after) ↔
      ∃ comment, ¬ commentOpener <:+: before ∧ ¬ commentCloser <:+: comment ∧
        text = before ++ (commentOpener ++ comment ++ commentCloser) ++ after := by
  constructor
  · intro hcut
    unfold cutComment? at hcut
    split at hcut
    next => cases hcut
    next opened hopener =>
      split at hcut
      next => cases hcut
      next comment after hcloser =>
        cases hcut
        refine ⟨comment, not_isInfix_of_cut? (by decide) hopener,
          not_isInfix_of_cut? (by decide) hcloser, ?_⟩
        rw [cut?_eq_some hopener, cut?_eq_some hcloser]
        simp only [List.append_assoc]
  · rintro ⟨comment, hbefore, hcomment, rfl⟩
    exact cutComment?_append_comment hbefore hcomment

/-- A text without an opener stays as it is. -/
theorem stripComments_eq_self (htext : ¬ commentOpener <:+: text) : stripComments text = text :=
  stripComments_of_cut_eq_none (cutComment?_eq_none htext)

/-- Without a closer behind it the first opener opens nothing, and no later one does. -/
theorem stripComments_unclosed (hbefore : ¬ commentOpener <:+: before)
    (hafter : ¬ commentCloser <:+: after) :
    stripComments (before ++ commentOpener ++ after) = before ++ commentOpener ++ after := by
  apply stripComments_of_cut_eq_none
  have hopener : cut? commentOpener (before ++ commentOpener ++ after) = some (before, after) := by
    simpa [commentOpener] using cut?_pair (by decide) hbefore
  rw [cutComment?, hopener]
  simp only [cut?_eq_none_iff.mpr hafter]

/-- The text before a comment stays, and the removal goes on behind the comment. -/
theorem stripComments_append_comment (hbefore : ¬ commentOpener <:+: before)
    (hcomment : ¬ commentCloser <:+: comment) :
    stripComments (before ++ (commentOpener ++ comment ++ commentCloser) ++ after) =
      before ++ stripComments after :=
  stripComments_of_cut_eq_some (cutComment?_append_comment hbefore hcomment)

/-- Removal keeps nothing that was not there. -/
theorem stripComments_subset (text : Text) : stripComments text ⊆ text := by
  induction text using comment_induction with
  | plain text hcut =>
    rw [stripComments_of_cut_eq_none hcut]
    exact List.Subset.refl text
  | commented text before after hcut ih =>
    obtain ⟨comment, -, -, htext⟩ := cutComment?_eq_some_iff.mp hcut
    rw [stripComments_of_cut_eq_some hcut, htext]
    apply List.append_subset.mpr
    constructor
    · exact List.Subset.trans (List.subset_append_left _ _) (List.subset_append_left _ _)
    · exact List.Subset.trans ih (List.subset_append_right _ _)

/-! ### Texts put in front and behind -/

/-- A text without an opener stands in front of the first comment, unless its last character is the
slash of an opener. -/
theorem cutComment?_append_left {front : Text} (hfront : ¬ commentOpener <:+: front)
    (hseam : '/' ∉ front.getLast?) :
    cutComment? (front ++ text) =
      (cutComment? text).map fun parts ↦ (front ++ parts.1, parts.2) := by
  have hopener : cut? commentOpener (front ++ text) =
      (cut? commentOpener text).map fun parts ↦ (front ++ parts.1, parts.2) :=
    cut?_pair_append_left (by decide) hfront hseam
  rw [cutComment?, cutComment?, hopener]
  cases cut? commentOpener text with
  | none => rfl
  | some opened =>
    simp only [Option.map_some]
    cases cut? commentCloser opened.2 <;> rfl

/-- Blanks behind a text stand behind its first comment. -/
theorem cutComment?_append_right {trail : Text} (htrail : OnlyBlanks trail) :
    cutComment? (text ++ trail) =
      (cutComment? text).map fun parts ↦ (parts.1, parts.2 ++ trail) := by
  rw [cutComment?, cutComment?, commentOpener, cut?_pair_append_right (htrail.not_mem (by decide))]
  cases cut? ['/', '*'] text with
  | none => rfl
  | some opened =>
    simp only [Option.map_some, commentCloser]
    rw [cut?_pair_append_right (htrail.not_mem (by decide))]
    cases cut? ['*', '/'] opened.2 <;> rfl

/-- Removal leaves such a text in front. -/
theorem stripComments_append_left {front : Text} (hfront : ¬ commentOpener <:+: front)
    (hseam : '/' ∉ front.getLast?) :
    stripComments (front ++ text) = front ++ stripComments text := by
  have hlonger := @cutComment?_append_left text front hfront hseam
  cases hcut : cutComment? text with
  | none =>
    rw [hcut] at hlonger
    rw [stripComments_of_cut_eq_none hcut, stripComments_of_cut_eq_none hlonger]
  | some parts =>
    rw [hcut] at hlonger
    rw [stripComments_of_cut_eq_some hcut, stripComments_of_cut_eq_some hlonger, List.append_assoc]

/-- Removal leaves the blanks in front of a text. -/
theorem stripComments_append_blanks {lead : Text} (hlead : OnlyBlanks lead) :
    stripComments (lead ++ text) = lead ++ stripComments text := by
  have hslash : '/' ∉ lead := hlead.not_mem (by decide)
  exact stripComments_append_left (not_pair_isInfix_of_not_mem (Or.inl hslash))
    fun hlast ↦ hslash (List.mem_of_getLast? hlast)

/-- Removal leaves the blanks behind a text. -/
theorem stripComments_append_right {trail : Text} (htrail : OnlyBlanks trail) :
    stripComments (text ++ trail) = stripComments text ++ trail := by
  induction text using comment_induction with
  | plain text hcut =>
    have hlonger := @cutComment?_append_right text trail htrail
    rw [hcut] at hlonger
    rw [stripComments_of_cut_eq_none hcut, stripComments_of_cut_eq_none hlonger]
  | commented text before after hcut ih =>
    have hlonger := @cutComment?_append_right text trail htrail
    rw [hcut] at hlonger
    rw [stripComments_of_cut_eq_some hcut, stripComments_of_cut_eq_some hlonger, ih,
      List.append_assoc]

end DeclaredParams.Text
