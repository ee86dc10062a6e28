import DeclaredParams.Proofs.Text.Comment
import Mathlib.Logic.ExistsUnique

/-!
# Texts as comments and what stands around them

A `CommentedPart` is a text without an opener and the comment behind it, and a `CommentDivision` is
a text written as such parts and a tail in which no comment is left. Every text has one division
(`exists_commentDivision`) and only one (`CommentDivision.eq_of_written_eq`), and removal keeps what
stands in front of the comments and the tail (`CommentDivision.stripComments_written`). In the tail
an opener may be left that no closer follows. A text whose tail has none is `CommentsClosed`: no
comment can begin in it and end in what is put behind it.
-/

set_option autoImplicit false
set_option relaxedAutoImplicit false

namespace DeclaredParams.Text

variable {text : Text}

/-! ### Comments that are left -/

/-- An opener stands in the text and a closer behind it, which does not use the star of the
opener. -/
def HoldsComment (text : Text) : Prop :=
  ∃ before comment after,
    text = before ++ (commentOpener ++ comment ++ commentCloser) ++ after

/-- A comment is found wherever there is one: the closer of any comment stands behind the first
opener. -/
theorem cutComment?_eq_none_iff : cutComment? text = none ↔ ¬ HoldsComment text := by
  constructor
  · rintro hcut ⟨before, comment, after, rfl⟩
    have hsplit : before ++ (commentOpener ++ comment ++ commentCloser) ++ after =
        before ++ commentOpener ++ (comment ++ commentCloser ++ after) := by
      simp only [List.append_assoc]
    rw [hsplit, cutComment?] at hcut
    cases hopened :
        cut? commentOpener (before ++ commentOpener ++ (comment ++ commentCloser ++ after)) with
    | none =>
      rw [cut?_eq_none_iff] at hopened
      exact hopened ⟨before, comment ++ commentCloser ++ after, rfl⟩
    | some parts =>
      have hcloser : commentCloser <:+: parts.2 :=
        List.IsInfix.trans ⟨comment, after, rfl⟩ (isSuffix_of_cut?_append hopened).isInfix
      rw [hopened] at hcut
      cases hclosed : cut? commentCloser parts.2 with
      | none => exact cut?_eq_none_iff.mp hclosed hcloser
      | some others =>
        simp only [hclosed] at hcut
        cases hcut
  · intro htext
    cases hcut : cutComment? text with
    | none => rfl
    | some parts =>
      obtain ⟨comment, -, -, hsplit⟩ := cutComment?_eq_some_iff.mp hcut
      exact absurd ⟨parts.1, comment, parts.2, hsplit⟩ htext

/-- A text without an opener holds no comment. -/
theorem not_holdsComment (htext : ¬ commentOpener <:+: text) : ¬ HoldsComment text :=
  cutComment?_eq_none_iff.mp (cutComment?_eq_none htext)

/-! ### Divisions -/

/-- A text without an opener and the comment behind it. -/
@[ext]
structure CommentedPart where
  /-- The text in front of the comment. -/
  front : Text
  /-- What stands between the opener and the closer. -/
  comment : Text
  no_opener : ¬ commentOpener <:+: front
  no_closer : ¬ commentCloser <:+: comment

namespace CommentedPart

/-- The characters of a part. -/
def written (part : CommentedPart) : Text :=
  part.front ++ (commentOpener ++ part.comment ++ commentCloser)

/-- The first comment of a text that starts with a part is the comment of the part. -/
theorem cutComment?_written_append (part : CommentedPart) (behind : Text) :
    cutComment? (part.written ++ behind) = some (part.front, behind) :=
  cutComment?_append_comment part.no_opener part.no_closer

/-- Removal keeps the front of a part and goes on behind its comment. -/
theorem stripComments_written_append (part : CommentedPart) (behind : Text) :
    stripComments (part.written ++ behind) = part.front ++ stripComments behind :=
  stripComments_append_comment part.no_opener part.no_closer

/-- A text starts with one part at most. -/
theorem eq_of_written_append {part other : CommentedPart} {behind rest : Text}
    (hsame : part.written ++ behind = other.written ++ rest) : part = other ∧ behind = rest := by
  have hcut : some (part.front, behind) = some (other.front, rest) := by
    rw [← part.cutComment?_written_append, hsame, other.cutComment?_written_append]
  simp only [Option.some.injEq, Prod.mk.injEq] at hcut
  obtain ⟨hfront, hbehind⟩ := hcut
  rw [hbehind] at hsame
  have htext : part.written = other.written := List.append_cancel_right hsame
  unfold written at htext
  rw [hfront, List.append_cancel_left_eq, List.append_cancel_right_eq,
    List.append_cancel_left_eq] at htext
  exact ⟨CommentedPart.ext hfront htext, hbehind⟩

/-- Removal keeps the fronts of the parts that a text starts with, whatever follows them. -/
theorem stripComments_flatMap_append (parts : List CommentedPart) (behind : Text) :
    stripComments (parts.flatMap written ++ behind) =
      parts.flatMap front ++ stripComments behind := by
  induction parts with
  | nil => rfl
  | cons part others ih =>
    rw [List.flatMap_cons, List.flatMap_cons, List.append_assoc, List.append_assoc,
      part.stripComments_written_append, ih]

end CommentedPart

/-- A text divided into its comments and what stands around them. -/
@[ext]
structure CommentDivision where
  /-- The comments, each with the text between the comment before it and itself. -/
  parts : List CommentedPart
  /-- What stands behind the last comment. -/
  tail : Text
  no_comment : ¬ HoldsComment tail

namespace CommentDivision

/-- The text that is divided. -/
def written (division : CommentDivision) : Text :=
  division.parts.flatMap CommentedPart.written ++ division.tail

/-- What stands around the comments. -/
def kept (division : CommentDivision) : Text :=
  division.parts.flatMap CommentedPart.front ++ division.tail

/-- The tail is no part with something behind it. -/
theorem tail_ne_append (division : CommentDivision) (part : CommentedPart) (behind : Text) :
    division.tail ≠ part.written ++ behind := fun hsame ↦
  division.no_comment ⟨part.front, part.comment, behind, hsame⟩

/-- Removal keeps what stands around the comments. -/
theorem stripComments_written (division : CommentDivision) :
    stripComments division.written = division.kept := by
  have htail : stripComments division.tail = division.tail :=
    stripComments_of_cut_eq_none (cutComment?_eq_none_iff.mpr division.no_comment)
  rw [written, CommentedPart.stripComments_flatMap_append, htail, kept]

/-- A text has one division at most. -/
theorem eq_of_written_eq {division other : CommentDivision}
    (hsame : division.written = other.written) : division = other := by
  obtain ⟨parts, tail, htail⟩ := division
  obtain ⟨parts', tail', htail'⟩ := other
  -- Both divisions start with the first comment, or neither has one.
  induction parts generalizing parts' with
  | nil =>
    cases parts' with
    | nil => exact CommentDivision.ext rfl hsame
    | cons part' others' =>
      rw [written, written, List.flatMap_cons, List.append_assoc] at hsame
      exact absurd hsame (tail_ne_append ⟨[], tail, htail⟩ part' _)
  | cons part others ih =>
    cases parts' with
    | nil =>
      rw [written, written, List.flatMap_cons, List.append_assoc] at hsame
      exact absurd hsame.symm (tail_ne_append ⟨[], tail', htail'⟩ part _)
    | cons part' others' =>
      rw [written, written, List.flatMap_cons, List.flatMap_cons, List.append_assoc,
        List.append_assoc] at hsame
      obtain ⟨hpart, hothers⟩ := CommentedPart.eq_of_written_append hsame
      have hrest := ih others' hothers
      rw [CommentDivision.mk.injEq] at hrest ⊢
      exact ⟨by rw [hpart, hrest.1], hrest.2⟩

end CommentDivision

/-- Every text has a division. -/
theorem exists_commentDivision (text : Text) :
    ∃ division : CommentDivision, division.written = text := by
  induction text using comment_induction with
  | plain text hcut => exact ⟨⟨[], text, cutComment?_eq_none_iff.mp hcut⟩, rfl⟩
  | commented text before after hcut ih =>
    obtain ⟨comment, hbefore, hcomment, rfl⟩ := cutComment?_eq_some_iff.mp hcut
    obtain ⟨division, rfl⟩ := ih
    refine ⟨⟨⟨before, comment, hbefore, hcomment⟩ :: division.parts, division.tail,
      division.no_comment⟩, ?_⟩
    rw [CommentDivision.written, CommentDivision.written, List.flatMap_cons, List.append_assoc]
    rfl

/-- A text can be written in one way only as comments and what stands around them, and removal keeps
what stands around them. The comments are removed one by one, whatever stands inside, and an opener
that no closer follows stays with all that is behind it. -/
theorem stripComments_division :
    (∀ text : Text, ∃! division : CommentDivision, division.written = text) ∧
    (∀ division : CommentDivision, stripComments division.written = division.kept) ∧
    (∀ (part : CommentedPart) (behind : Text),
      stripComments (part.written ++ behind) = part.front ++ stripComments behind) ∧
    (∀ front behind : Text, ¬ commentOpener <:+: front → ¬ commentCloser <:+: behind →
      stripComments (front ++ commentOpener ++ behind) = front ++ commentOpener ++ behind) := by
  refine ⟨?_, CommentDivision.stripComments_written, CommentedPart.stripComments_written_append, ?_⟩
  · intro text
    obtain ⟨division, rfl⟩ := exists_commentDivision text
    exact ⟨division, rfl, fun _ hsame ↦ CommentDivision.eq_of_written_eq hsame⟩
  · intro front behind
    exact stripComments_unclosed

/-- The star of an opener closes nothing, an opener inside a comment opens nothing, and a star may
stand right before the closer. -/
theorem stripComments_division_of_overlaps :
    stripComments "/*/".toList = "/*/".toList ∧
      stripComments "x/*/ /*\n*/y/***/z*//*/".toList = "xyz*//*/".toList := by
  constructor
  · exact stripComments_division.2.2.2 [] ['/'] (by decide) (by decide)
  · exact stripComments_division.2.1
      ⟨[⟨['x'], "/ /*\n".toList, by decide, by decide +kernel⟩,
          ⟨['y'], ['*'], by decide, by decide⟩],
        "z*//*/".toList, cutComment?_eq_none_iff.mp (by decide +kernel)⟩

/-! ### Texts that leave no comment open -/

/-- No opener is left behind the last comment of the text. -/
def CommentsClosed (text : Text) : Prop :=
  ∃ division : CommentDivision, division.written = text ∧ ¬ commentOpener <:+: division.tail

/-- A text without an opener leaves no comment open. -/
theorem commentsClosed_of_no_opener (htext : ¬ commentOpener <:+: text) : CommentsClosed text :=
  ⟨⟨[], text, not_holdsComment htext⟩, rfl, htext⟩

namespace CommentsClosed

/-- No comment goes over a comma, so the removal starts anew behind it. -/
theorem stripComments_append_comma (hclosed : CommentsClosed text) (behind : Text) :
    stripComments (text ++ ',' :: behind) = stripComments text ++ ',' :: stripComments behind := by
  obtain ⟨division, rfl, htail⟩ := hclosed
  have hcomma : ¬ commentOpener <:+: division.tail ++ [','] :=
    not_pair_isInfix_append htail (by decide) (Or.inr (by decide))
  have hrest : stripComments (division.tail ++ ',' :: behind) =
      division.tail ++ ',' :: stripComments behind := by
    have hfront := @stripComments_append_left behind (division.tail ++ [',']) hcomma (by simp)
    simpa using hfront
  rw [division.stripComments_written, CommentDivision.kept, CommentDivision.written,
    List.append_assoc, CommentedPart.stripComments_flatMap_append, hrest, List.append_assoc]

/-- A comment behind the text begins where it seems to begin. -/
theorem stripComments_append_comment {comment : Text} (hclosed : CommentsClosed text)
    (hcomment : ¬ commentCloser <:+: comment) (behind : Text) :
    stripComments (text ++ (commentOpener ++ comment ++ commentCloser) ++ behind) =
      stripComments text ++ stripComments behind := by
  obtain ⟨division, rfl, htail⟩ := hclosed
  rw [division.stripComments_written, CommentDivision.kept, CommentDivision.written,
    List.append_assoc, List.append_assoc, CommentedPart.stripComments_flatMap_append,
    ← List.append_assoc, Text.stripComments_append_comment htail hcomment, List.append_assoc]

end CommentsClosed

/-- Any other text ends in an opener that is not closed, behind comments and a text without one. -/
theorem exists_opener_of_not_commentsClosed (hopen : ¬ CommentsClosed text) :
    ∃ (parts : List CommentedPart) (before after : Text),
      text = parts.flatMap CommentedPart.written ++ (before ++ commentOpener ++ after) ∧
        ¬ commentOpener <:+: before ∧ ¬ commentCloser <:+: after := by
  obtain ⟨division, rfl⟩ := exists_commentDivision text
  cases hcut : cut? commentOpener division.tail with
  | none => exact absurd ⟨division, rfl, cut?_eq_none_iff.mp hcut⟩ hopen
  | some around =>
    obtain ⟨before, after⟩ := around
    have htail := cut?_eq_some hcut
    refine ⟨division.parts, before, after, ?_, not_isInfix_of_cut? (by decide) hcut, ?_⟩
    · rw [CommentDivision.written, htail]
    · rintro ⟨comment, rest, rfl⟩
      refine division.no_comment ⟨before, comment, rest, ?_⟩
      rw [htail]
      simp only [List.append_assoc]

end DeclaredParams.Text
