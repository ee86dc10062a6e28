import DeclaredParams.Text.Basic

/-!
# Block comments

A block comment goes from an opener to the first closer after it. `stripComments` removes the
comments of a text from left to right, so an opener inside a comment opens nothing. A closer needs
two characters of its own, so the three characters of an opener and a slash are no comment. An
opener without a closer after it opens nothing either, and all that follows it is kept.
-/

set_option autoImplicit false
set_option relaxedAutoImplicit false

namespace DeclaredParams.Text

/-- The two characters that open a comment. -/
def commentOpener : Text := ['/', '*']

/-- The two characters that close a comment. -/
def commentCloser : Text := ['*', '/']

/-- The text before the first comment and the text after it. -/
def cutComment? (text : Text) : Option (Text × Text) :=
  match cut? commentOpener text with
  | none => none
  | some (before, opened) =>
    match cut? commentCloser opened with
    | none => none
    | some (_, after) => some (before, after)

/-- What remains after the first comment is shorter than the text. -/
theorem length_of_cutComment?_eq_some {text before after : Text}
    (hcut : cutComment? text = some (before, after)) : after.length < text.length := by
  unfold cutComment? at hcut
  split at hcut
  next => simp at hcut
  next opened hopener =>
    split at hcut
    next => simp at hcut
    next hcloser =>
      simp only [Option.some.injEq, Prod.mk.injEq] at hcut
      have hopened := length_of_cut?_eq_some hopener
      have hclosed := length_of_cut?_eq_some hcloser
      rw [← hcut.2]
      simp only [commentOpener, commentCloser, List.length_cons, List.length_nil] at hopened hclosed
      omega

/-- Removal of comments, where the characters kept so far are given in reverse order. -/
def stripCommentsFrom (kept text : Text) : Text :=
  match _hcut : cutComment? text with
  | none => kept.reverse ++ text
  | some (before, after) => stripCommentsFrom (before.reverse ++ kept) after
termination_by text.length
decreasing_by exact length_of_cutComment?_eq_some (by assumption)

/-- The text without its comments. -/
def stripComments (text : Text) : Text :=
  stripCommentsFrom [] text

end DeclaredParams.Text
