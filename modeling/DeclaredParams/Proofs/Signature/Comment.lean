import DeclaredParams.Proofs.Signature.Selection

/-!
# Comments in the list of a regular function

A comment is removed only after a shape has found the list, so what it holds may change the answer:
a closing parenthesis ends the list, an arrow makes the source an arrow function, and a line break
may stand between two characters that close the comment without it. `inspect_comment` says that
nothing else does: without an arrow and a closing parenthesis the comment makes no difference, and
with an arrow the source is read as an arrow function. With a closing parenthesis the list is what
precedes it, opener included (`inspect_comment_of_closing`). `CommentPlace` says where the comment
may stand, and `exists_inspect_comment_ne` has one comment of each kind that makes a difference.
-/

set_option autoImplicit false
set_option relaxedAutoImplicit false

namespace DeclaredParams

open Text

variable {head front behind rest comment : Text}

/-- The comment with a given text. -/
def commentText (comment : Text) : Text :=
  commentOpener ++ comment ++ commentCloser

/-! ### The place of a comment -/

/-- A place for a comment in the list of a regular function, between `front` and `behind`: next to a
comma or to an end of the list. The list ends where the parenthesis behind it closes, and the source
has no other comment there, no line break and no arrow. -/
structure CommentPlace (head front behind rest : Text) : Prop where
  onLine : OneLine (Shape.regularText head (front ++ behind) rest)
  notOpened : '(' ∉ head
  frontNotClosed : ')' ∉ front
  behindNotClosed : ')' ∉ behind
  frontUncommented : ¬ commentOpener <:+: front
  behindUncommented : ¬ commentOpener <:+: behind
  beside : front = [] ∨ front.getLast? = some ',' ∨ behind = [] ∨ behind.head? = some ','
  noArrow : ¬ Shape.arrow <:+: Shape.regularText head (front ++ behind) rest

/-- A source with a place in its list, divided there. -/
theorem regularText_append (head front behind rest : Text) :
    Shape.regularText head (front ++ behind) rest =
      ("function".toList ++ (head ++ '(' :: front)) ++ (behind ++ ')' :: rest) := by
  unfold Shape.regularText
  simp only [List.append_assoc, List.cons_append]

theorem regularText_append_commentText (head front comment behind rest : Text) :
    Shape.regularText head (front ++ commentText comment ++ behind) rest =
      ("function".toList ++ (head ++ '(' :: front)) ++
        (commentText comment ++ (behind ++ ')' :: rest)) := by
  rw [List.append_assoc front, regularText_append, List.append_assoc (commentText comment)]

namespace CommentPlace

/-- The two parts of the list together hold no opener, for none comes about between them. -/
theorem not_opener (hplace : CommentPlace head front behind rest) :
    ¬ commentOpener <:+: front ++ behind := by
  rcases hplace.beside with rfl | hcomma | rfl | hcomma
  · exact hplace.behindUncommented
  · apply not_pair_isInfix_append hplace.frontUncommented hplace.behindUncommented
    left
    rw [hcomma]
    decide
  · rw [List.append_nil]
    exact hplace.frontUncommented
  · apply not_pair_isInfix_append hplace.frontUncommented hplace.behindUncommented
    right
    rw [hcomma]
    decide

/-- Only the comment can bring a line break in. -/
theorem joinLines_regularText (hplace : CommentPlace head front behind rest) (comment : Text) :
    joinLines (Shape.regularText head (front ++ commentText comment ++ behind) rest) =
      Shape.regularText head (front ++ commentText (joinLines comment) ++ behind) rest := by
  have honLine := hplace.onLine
  rw [regularText_append, oneLine_append] at honLine
  have hopener : joinLines commentOpener = commentOpener := by decide
  have hcloser : joinLines commentCloser = commentCloser := by decide
  have hinside : joinLines (commentText comment) = commentText (joinLines comment) := by
    rw [commentText, joinLines_append, joinLines_append, hopener, hcloser, commentText]
  rw [regularText_append_commentText, regularText_append_commentText,
    joinLines_append ("function".toList ++ (head ++ '(' :: front)),
    joinLines_append (commentText comment), joinLines_eq_self honLine.1,
    joinLines_eq_self honLine.2, hinside]

/-- Only the comment can bring an arrow in. -/
theorem not_arrow (hplace : CommentPlace head front behind rest)
    (hcomment : ¬ Shape.arrow <:+: comment) :
    ¬ Shape.arrow <:+: Shape.regularText head (front ++ commentText comment ++ behind) rest := by
  have hwhole := hplace.noArrow
  rw [regularText_append] at hwhole
  have hbefore : ¬ Shape.arrow <:+: "function".toList ++ (head ++ '(' :: front) :=
    fun hoccurs ↦ hwhole (hoccurs.trans (List.prefix_append _ _).isInfix)
  have hafter : ¬ Shape.arrow <:+: behind ++ ')' :: rest :=
    fun hoccurs ↦ hwhole (hoccurs.trans (List.suffix_append _ _).isInfix)
  have hclosed : ¬ Shape.arrow <:+: comment ++ commentCloser :=
    not_pair_isInfix_append hcomment (not_pair_isInfix_of_not_mem (by decide))
      (Or.inr (by decide))
  have hinside : ¬ Shape.arrow <:+: commentText comment := by
    rw [commentText, List.append_assoc]
    exact not_pair_isInfix_append (not_pair_isInfix_of_not_mem (by decide)) hclosed
      (Or.inl (by decide))
  rw [regularText_append_commentText]
  apply not_pair_isInfix_append hbefore
  · apply not_pair_isInfix_append hinside hafter
    left
    rw [commentText, commentCloser, List.getLast?_append]
    simp
  · right
    rw [commentText, commentOpener]
    simp

/-- With the comment the list declares the same parameters. -/
theorem parseParameterList_comment (hplace : CommentPlace head front behind rest)
    (hcomment : ¬ commentCloser <:+: comment) :
    parseParameterList (front ++ commentText comment ++ behind) =
      parseParameterList (front ++ behind) := by
  rw [parseParameterList_of_no_comment hplace.not_opener, parseParameterList_eq_tokenParameters,
    commentText, stripComments_append_comment hplace.frontUncommented hcomment,
    stripComments_eq_self hplace.behindUncommented]

end CommentPlace

/-! ### Inspections with a comment -/

/-- The first closing parenthesis in a comment ends the list. Cut off there, the comment is not
closed, so its opener and its text are read as they stand, and nothing behind the parenthesis is
read. -/
theorem inspect_comment_of_closing (hplace : CommentPlace head front behind rest)
    {before after : Text} (hcomment : joinLines comment = before ++ ')' :: after)
    (hfirst : ')' ∉ before) (hcloser : ¬ commentCloser <:+: before)
    (harrow : ¬ Shape.arrow <:+: joinLines comment) :
    inspect .all (Shape.regularText head (front ++ commentText comment ++ behind) rest) =
      ⟨some .regularFunction, tokenParameters (front ++ commentOpener ++ before)⟩ := by
  have hsource :
      Shape.regularText head (front ++ commentText (joinLines comment) ++ behind) rest =
        Shape.regularText head (front ++ commentOpener ++ before)
          (after ++ commentCloser ++ (behind ++ ')' :: rest)) := by
    rw [hcomment, regularText_append_commentText, regularText_append, commentText]
    simp only [List.append_assoc, List.cons_append]
  have honLine := oneLine_joinLines
    (Shape.regularText head (front ++ commentText comment ++ behind) rest)
  have hnoArrow := hplace.not_arrow harrow
  rw [hplace.joinLines_regularText, hsource] at honLine
  rw [hsource] at hnoArrow
  have hlist : ')' ∉ front ++ commentOpener ++ before := by
    simp only [List.mem_append, not_or]
    exact ⟨⟨hplace.frontNotClosed, by decide⟩, hfirst⟩
  rw [← inspect_joinLines, hplace.joinLines_regularText, hsource,
    inspect_regularText rfl honLine hplace.notOpened hlist (Or.inr hnoArrow),
    parseParameterList_eq_tokenParameters,
    stripComments_unclosed hplace.frontUncommented hcloser]

/-- A comment in the list of a regular function makes no difference, unless it closes the list or
brings an arrow in; with an arrow the source is read as an arrow function. -/
theorem inspect_comment (hplace : CommentPlace head front behind rest)
    (hcomment : ¬ commentCloser <:+: joinLines comment) :
    (Shape.arrow <:+: joinLines comment →
      (inspect .all
        (Shape.regularText head (front ++ commentText comment ++ behind) rest)).shape =
          some .arrowFunction) ∧
    (¬ Shape.arrow <:+: joinLines comment → ')' ∉ comment →
      inspect .all (Shape.regularText head (front ++ commentText comment ++ behind) rest) =
        inspect .all (Shape.regularText head (front ++ behind) rest)) := by
  have hjoined := hplace.joinLines_regularText comment
  have honLine : OneLine
      (Shape.regularText head (front ++ commentText (joinLines comment) ++ behind) rest) := by
    rw [← hjoined]
    exact oneLine_joinLines _
  rw [← inspect_joinLines .all
    (Shape.regularText head (front ++ commentText comment ++ behind) rest), hjoined]
  constructor
  · intro harrow
    apply inspect_shape_of_arrow honLine (Shape.trimStart_regularText _ _ _) rfl
    · exact Shape.capture_class_eq_none (by decide)
    · rw [regularText_append_commentText, commentText]
      refine harrow.trans ⟨"function".toList ++ (head ++ '(' :: front) ++ commentOpener,
        commentCloser ++ (behind ++ ')' :: rest), ?_⟩
      simp only [List.append_assoc]
  · intro harrow hclosing
    have hlist : ')' ∉ front ++ commentText (joinLines comment) ++ behind := by
      rw [commentText]
      simp only [List.mem_append, not_or]
      refine ⟨⟨hplace.frontNotClosed, ⟨by decide, ?_⟩, by decide⟩, hplace.behindNotClosed⟩
      exact fun hmem ↦ hclosing (List.mem_filter.mp hmem).1
    rw [inspect_regularText rfl honLine hplace.notOpened hlist (Or.inr (hplace.not_arrow harrow)),
      inspect_regularText rfl hplace.onLine hplace.notOpened
        (by simp [hplace.frontNotClosed, hplace.behindNotClosed]) (Or.inr hplace.noArrow),
      hplace.parseParameterList_comment hcomment]

/-- A place behind the comma of two parameters. -/
theorem commentPlace_behind_comma :
    CommentPlace " f".toList "a,".toList " b".toList " {}".toList where
  onLine := by decide +kernel
  notOpened := by decide
  frontNotClosed := by decide
  behindNotClosed := by decide
  frontUncommented := not_pair_isInfix_of_not_mem (by decide)
  behindUncommented := not_pair_isInfix_of_not_mem (by decide)
  beside := Or.inr (Or.inl rfl)
  noArrow := not_pair_isInfix_of_not_mem (Or.inl (by decide +kernel))

theorem inspect_behind_comma :
    inspect .all (Shape.regularText " f".toList ("a,".toList ++ " b".toList) " {}".toList) =
      ⟨some .regularFunction, [.plain ['a'], .plain ['b']]⟩ := by
  have htokens : tokenParameters ("a,".toList ++ " b".toList) = [.plain ['a'], .plain ['b']] := by
    decide +kernel
  have hlist := parseParameterList_of_no_comment commentPlace_behind_comma.not_opener
  rw [htokens] at hlist
  rw [inspect_regularText rfl commentPlace_behind_comma.onLine (by decide) (by decide)
    (Or.inr commentPlace_behind_comma.noArrow), hlist]

/-- A comment with commas, an equals sign and an opening parenthesis makes no difference, and one
with an arrow does. -/
theorem inspect_comment_behind_comma :
    inspect .all "function f(a,/* x, (y = z */ b) {}".toList =
      inspect .all "function f(a, b) {}".toList ∧
    (inspect .all "function f(a,/* x => y */ b) {}".toList).shape = some .arrowFunction := by
  constructor
  · have hcomment := (@inspect_comment _ _ _ _ " x, (y = z ".toList commentPlace_behind_comma
      (cut?_eq_none_iff.mp (by decide +kernel))).2 (cut?_eq_none_iff.mp (by decide +kernel))
      (by decide)
    exact hcomment
  · exact (@inspect_comment _ _ _ _ " x => y ".toList commentPlace_behind_comma
      (cut?_eq_none_iff.mp (by decide +kernel))).1 (by decide +kernel)

/-- Three comments that make a difference. The first holds a closing parenthesis: what precedes it
is read as it stands, and what follows is not read. The second holds an arrow. The third is closed
early when its line break is removed. -/
theorem exists_inspect_comment_ne :
    ∃ head front behind rest, CommentPlace head front behind rest ∧
      ∀ comment ∈ [" (x) ".toList, " x => y ".toList, "*\n/ x ".toList],
        ¬ commentCloser <:+: comment ∧
          inspect .all (Shape.regularText head (front ++ commentText comment ++ behind) rest) ≠
            inspect .all (Shape.regularText head (front ++ behind) rest) := by
  refine ⟨_, _, _, _, commentPlace_behind_comma, ?_⟩
  rw [List.forall_mem_cons, List.forall_mem_cons, List.forall_mem_singleton,
    inspect_behind_comma]
  refine ⟨⟨?_, ?_⟩, ⟨?_, ?_⟩, ?_, ?_⟩
  · exact cut?_eq_none_iff.mp (by decide +kernel)
  · have hread := @inspect_comment_of_closing _ _ _ _ " (x) ".toList commentPlace_behind_comma
      " (x".toList " ".toList (by decide +kernel) (by decide)
      (not_pair_isInfix_of_not_mem (by decide)) (cut?_eq_none_iff.mp (by decide +kernel))
    rw [hread]
    decide +kernel
  · exact cut?_eq_none_iff.mp (by decide +kernel)
  · have hshape : (inspect .all (Shape.regularText " f".toList
        ("a,".toList ++ commentText " x => y ".toList ++ " b".toList) " {}".toList)).shape =
          some .arrowFunction :=
      inspect_shape_of_arrow (by decide +kernel) (Shape.trimStart_regularText _ _ _) rfl
        (Shape.capture_class_eq_none (by decide)) (by decide +kernel)
    intro hsame
    rw [hsame] at hshape
    exact absurd hshape (by decide)
  · exact cut?_eq_none_iff.mp (by decide +kernel)
  · have hlist : parseParameterList ("a,".toList ++ commentText (joinLines "*\n/ x ".toList) ++
        " b".toList) = [.plain ['a'], .plain ['x', ' ', '*', '/', ' ', 'b']] := by
      have htext : "a,".toList ++ commentText (joinLines "*\n/ x ".toList) ++ " b".toList =
          "a,".toList ++ (commentOpener ++ [] ++ commentCloser) ++ " x */ b".toList := by
        decide +kernel
      rw [htext, parseParameterList_eq_tokenParameters, stripComments_append_comment
        (not_pair_isInfix_of_not_mem (by decide)) (not_pair_isInfix_of_not_mem (by decide)),
        stripComments_eq_self (cut?_eq_none_iff.mp (by decide +kernel))]
      decide +kernel
    rw [← inspect_joinLines, commentPlace_behind_comma.joinLines_regularText,
      inspect_regularText rfl (by decide +kernel) (by decide) (by decide)
        (Or.inr (cut?_eq_none_iff.mp (by decide +kernel))), hlist]
    decide

end DeclaredParams
