import DeclaredParams.Proofs.Parameter.Token
import DeclaredParams.Proofs.Text.CommentDivision
import Mathlib.Tactic.ByContra

/-!
# Lists put together at a comma

A parameter list is read after its comments are removed from the whole of it, so the texts on the
two sides of a comma could disturb each other through a comment. They do not when the front leaves
no comment open (`parseParameterList_append_comma`), and for any other front there is a text that
disturbs it: a closer, which turns the rest of the front into a comment
(`parseParameterList_append_closer`). Lists of more pieces are read piece by piece
(`parseParameterList_intercalate`).
-/

set_option autoImplicit false
set_option relaxedAutoImplicit false

namespace DeclaredParams

open Text

variable {front : Text}

/-! ### Fronts that leave no comment open -/

/-- What stands before a comma and what stands behind it are read on their own. -/
theorem parseParameterList_append_comma (hclosed : CommentsClosed front) (behind : Text) :
    parseParameterList (front ++ ',' :: behind) =
      parseParameterList front ++ parseParameterList behind := by
  simp only [parseParameterList_eq_tokenParameters]
  rw [hclosed.stripComments_append_comma, tokenParameters_append_comma]

/-- Pieces between commas are read on their own; only the last one may leave a comment open. -/
theorem parseParameterList_intercalate (pieces : List Text)
    (hpieces : ∀ piece ∈ pieces.dropLast, CommentsClosed piece) :
    parseParameterList ([','].intercalate pieces) = pieces.flatMap parseParameterList := by
  induction pieces with
  | nil =>
    rw [List.intercalate_nil, parseParameterList_of_no_comment (by decide)]
    rfl
  | cons piece others ih =>
    cases others with
    | nil => simp
    | cons next others =>
      rw [List.dropLast_cons_cons, List.forall_mem_cons] at hpieces
      rw [List.intercalate_cons_cons, List.append_assoc, List.singleton_append,
        parseParameterList_append_comma hpieces.1, ih hpieces.2]
      rfl

/-- Blanks declare nothing. -/
theorem parseParameterList_of_onlyBlanks {blanks : Text} (hblanks : OnlyBlanks blanks) :
    parseParameterList blanks = [] := by
  have hslash : '/' ∉ blanks := hblanks.not_mem (by decide)
  rw [parseParameterList_of_no_comment (not_pair_isInfix_of_not_mem (Or.inl hslash)),
    tokenParameters_eq_nil_iff]
  exact fun character hmem ↦ Or.inl (hblanks character hmem)

/-- Nothing that stands inside a comment is read, commas included. -/
theorem parseParameterList_append_comment {comment : Text} (hclosed : CommentsClosed front)
    (hcomment : ¬ commentCloser <:+: comment) (behind : Text) :
    parseParameterList (front ++ (commentOpener ++ comment ++ commentCloser) ++ behind) =
      tokenParameters (stripComments front ++ stripComments behind) := by
  rw [parseParameterList_eq_tokenParameters, hclosed.stripComments_append_comment hcomment]

/-! ### Fronts that leave a comment open -/

/-- A closer behind a comma makes a comment of all that stands behind the open one, and the
parameters of the front and the closer as one more are too many. -/
theorem parseParameterList_append_closer (hopen : ¬ CommentsClosed front) :
    parseParameterList (front ++ ',' :: commentCloser) ≠
      parseParameterList front ++ parseParameterList commentCloser := by
  obtain ⟨parts, before, after, rfl, hbefore, hafter⟩ := exists_opener_of_not_commentsClosed hopen
  have hcomment : ¬ commentCloser <:+: after ++ [','] :=
    not_pair_isInfix_append hafter (by decide) (Or.inr (by decide))
  -- With the closer behind it the front loses what stands behind its last opener.
  have hlonger : stripComments (parts.flatMap CommentedPart.written ++
      (before ++ commentOpener ++ after) ++ ',' :: commentCloser) =
        parts.flatMap CommentedPart.front ++ before := by
    have hsplit : before ++ commentOpener ++ after ++ ',' :: commentCloser =
        before ++ (commentOpener ++ (after ++ [',']) ++ commentCloser) ++ [] := by
      simp
    have hempty : stripComments [] = [] := stripComments_eq_self (by decide)
    rw [List.append_assoc, CommentedPart.stripComments_flatMap_append, hsplit,
      stripComments_append_comment hbefore hcomment, hempty, List.append_nil]
  have hfront : stripComments (parts.flatMap CommentedPart.written ++
      (before ++ commentOpener ++ after)) =
        parts.flatMap CommentedPart.front ++ before ++ (commentOpener ++ after) := by
    rw [CommentedPart.stripComments_flatMap_append, stripComments_unclosed hbefore hafter]
    simp only [List.append_assoc]
  have hcloser : parseParameterList commentCloser = [.plain commentCloser] := by
    rw [parseParameterList_of_no_comment (by decide)]
    decide
  have hfewer := length_tokenParameters_le (parts.flatMap CommentedPart.front ++ before)
    (commentOpener ++ after)
  intro hsame
  rw [hcloser, parseParameterList_eq_tokenParameters, parseParameterList_eq_tokenParameters,
    hlonger, hfront] at hsame
  have hlength := congrArg List.length hsame
  rw [List.length_append, List.length_singleton] at hlength
  omega

/-! ### The law of the comma -/

/-- The lists on the two sides of a comma are read one after the other, whatever stands behind the
comma, exactly when no comment is left open in front of it. So pieces are read on their own, blank
ones declare nothing, and it makes no difference what a comment holds. -/
theorem parseParameterList_comma_law :
    (∀ front : Text, CommentsClosed front ↔ ∀ behind, parseParameterList (front ++ ',' :: behind) =
      parseParameterList front ++ parseParameterList behind) ∧
    (∀ pieces : List Text, (∀ piece ∈ pieces.dropLast, CommentsClosed piece) →
      parseParameterList ([','].intercalate pieces) = pieces.flatMap parseParameterList) ∧
    (∀ blanks : Text, OnlyBlanks blanks →
      CommentsClosed blanks ∧ parseParameterList blanks = []) ∧
    (∀ front comment other behind : Text, CommentsClosed front →
      ¬ commentCloser <:+: comment → ¬ commentCloser <:+: other →
        parseParameterList (front ++ (commentOpener ++ comment ++ commentCloser) ++ behind) =
          parseParameterList (front ++ (commentOpener ++ other ++ commentCloser) ++ behind)) := by
  refine ⟨fun front ↦ ⟨parseParameterList_append_comma, ?_⟩, parseParameterList_intercalate, ?_, ?_⟩
  · intro hlaw
    by_contra hopen
    exact parseParameterList_append_closer hopen (hlaw commentCloser)
  · intro blanks hblanks
    have hslash : '/' ∉ blanks := hblanks.not_mem (by decide)
    exact ⟨commentsClosed_of_no_opener (not_pair_isInfix_of_not_mem (Or.inl hslash)),
      parseParameterList_of_onlyBlanks hblanks⟩
  · intro front comment other behind hclosed hcomment hother
    rw [parseParameterList_append_comment hclosed hcomment,
      parseParameterList_append_comment hclosed hother]

/-- A comment with a comma and an opener in it closes in front of the next comma, so the list is
read in two parts; blank pieces of the second declare nothing. -/
theorem parseParameterList_comma_law_of_comment :
    CommentsClosed "a /* x, /* y */".toList ∧
      parseParameterList "a /* x, /* y */, ,...b,".toList = [.plain ['a'], .rest ['b']] := by
  have hinside : ¬ commentCloser <:+: " x, /* y ".toList := by decide +kernel
  obtain ⟨division, hwritten, hkept, htail⟩ : ∃ division : CommentDivision,
      division.written = "a /* x, /* y */".toList ∧ division.kept = ['a', ' '] ∧
        division.tail = [] :=
    ⟨⟨[⟨['a', ' '], " x, /* y ".toList, by decide, hinside⟩], [], not_holdsComment (by decide)⟩,
      rfl, rfl, rfl⟩
  have hfront : parseParameterList "a /* x, /* y */".toList = [.plain ['a']] := by
    rw [parseParameterList_eq_tokenParameters, ← hwritten, division.stripComments_written, hkept]
    decide
  have hbehind : parseParameterList " ,...b,".toList = [.rest ['b']] := by
    rw [parseParameterList_of_no_comment (not_pair_isInfix_of_not_mem (by decide))]
    decide
  have hclosed : CommentsClosed "a /* x, /* y */".toList :=
    ⟨division, hwritten, by rw [htail]; decide⟩
  have hlaw := (parseParameterList_comma_law.1 _).mp hclosed " ,...b,".toList
  rw [hfront, hbehind] at hlaw
  exact ⟨hclosed, hlaw⟩

end DeclaredParams
