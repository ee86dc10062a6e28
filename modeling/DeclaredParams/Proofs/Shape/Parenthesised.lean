import DeclaredParams.Proofs.Pattern.Preference
import DeclaredParams.Proofs.Text.Division
import DeclaredParams.Proofs.Text.Trimming
import DeclaredParams.Shape.Capture
import Mathlib.Tactic.SplitIfs

/-!
# Lists in parentheses and regular functions

The patterns of two shapes end in a parameter list in parentheses. `StartsWithList` says where such
a list stands: it runs to the first closing parenthesis, so text put behind it does not change it
(`StartsWithList.append`). `capture_regularPattern` says that a regular function has the first list
behind its keyword captured, with no opening parenthesis before it.

`RegularDivision` puts that down as a way to divide the text, of which the list is one part
(`capture_regular_eq_some_iff`). There is one division at most (`RegularDivision.eq`), since the list
can only stand behind the first opening parenthesis and only reach to the first closing one, and
`capture_regular_division` says when there is none. A regular function keeps its division, and so its
list, when text is put behind it (`capture_regular_append`).
-/

set_option autoImplicit false
set_option relaxedAutoImplicit false

namespace DeclaredParams.Shape

open Text

variable {text list : Text}

/-! ### A list in parentheses -/

/-- The text starts with a parameter list in parentheses, and `list` stands between them. -/
def StartsWithList (text list : Text) : Prop :=
  ')' ∉ list ∧ ∃ behind, text = '(' :: (list ++ ')' :: behind)

theorem StartsWithList.append (hlist : StartsWithList text list) (behind : Text) :
    StartsWithList (text ++ behind) list := by
  obtain ⟨hclosed, rest, rfl⟩ := hlist
  exact ⟨hclosed, rest ++ behind, by simp⟩

/-- An opening parenthesis with a closing one anywhere behind it starts a list. -/
theorem exists_startsWithList (htext : ')' ∈ text) : ∃ list, StartsWithList ('(' :: text) list := by
  obtain ⟨list, behind, rfl, hclosed⟩ := List.eq_append_cons_of_mem htext
  exact ⟨list, hclosed, behind, rfl⟩

/-- A closing parenthesis is read only where the text starts with one. -/
theorem capture_closing (text captured : Text) :
    Pattern.capture (Pattern.word ")") text = some captured ↔
      captured = [] ∧ ∃ behind, text = ')' :: behind := by
  rw [← List.append_nil (Pattern.word ")"), Pattern.capture_word_append]
  constructor
  · rintro ⟨behind, rfl, hcaptured⟩
    exact ⟨(Option.some.inj hcaptured).symm, behind, rfl⟩
  · rintro ⟨rfl, behind, rfl⟩
    exact ⟨behind, rfl, rfl⟩

/-- What stands in the parentheses at the start of a text is captured. -/
theorem capture_parenthesised :
    Pattern.capture parenthesised text = some list ↔ StartsWithList text list := by
  have hbody (body : Text) : Pattern.capture ([⟨.except ')', .fewest, true⟩] ++ Pattern.word ")")
      body = some list ↔ ')' ∉ list ∧ ∃ behind, body = list ++ ')' :: behind := by
    have hfew : Pattern.capture ([⟨.except ')', .fewest, true⟩] ++ Pattern.word ")") body =
        some list ↔ _ := Piece.few_eq_some_iff_of_disjoint ?_
    · rw [hfew]
      constructor
      · rintro ⟨passed, rest, found, hstops, rfl⟩
        obtain ⟨rfl, behind, rfl⟩ := (capture_closing rest found).mp hstops.following_eq
        rw [Piece.foldr_collect_of_kept rfl, List.append_nil]
        exact ⟨(CharClass.holds_except_iff ')' passed).mp hstops.holds, behind, hstops.text_eq⟩
      · rintro ⟨hclosed, behind, rfl⟩
        refine ⟨list, ')' :: behind, [], ⟨rfl, (CharClass.holds_except_iff ')' list).mpr hclosed,
          (capture_closing _ _).mpr ⟨rfl, behind, rfl⟩⟩, ?_⟩
        rw [Piece.foldr_collect_of_kept rfl, List.append_nil]
    · intro character rest found hfound
      obtain ⟨-, behind, hbehind⟩ := (capture_closing _ _).mp hfound
      rw [(List.cons.inj hbehind).1]
      decide
  rw [parenthesised, List.append_assoc, Pattern.capture_word_append]
  constructor
  · rintro ⟨body, rfl, hcaptured⟩
    obtain ⟨hclosed, behind, rfl⟩ := (hbody body).mp hcaptured
    exact ⟨hclosed, behind, rfl⟩
  · rintro ⟨hclosed, behind, rfl⟩
    exact ⟨list ++ ')' :: behind, rfl, (hbody _).mpr ⟨hclosed, behind, rfl⟩⟩

/-! ### Regular functions -/

/-- The first list of a text is captured, if no line feed stands before it. -/
theorem few_parenthesised :
    Piece.few ⟨.except '\n', .fewest, false⟩ (Pattern.capture parenthesised) text = some list ↔
      ∃ head rest, text = head ++ rest ∧ '(' ∉ head ∧ '\n' ∉ head ∧ StartsWithList rest list := by
  constructor
  · intro hfew
    obtain ⟨head, rest, found, hstops, rfl, hfirst⟩ := Piece.few_eq_some_iff.mp hfew
    rw [Piece.foldr_collect_of_not_kept rfl]
    have hlist := capture_parenthesised.mp hstops.following_eq
    refine ⟨head, rest, hstops.text_eq, ?_,
      (CharClass.holds_except_iff '\n' head).mp hstops.holds, hlist⟩
    -- An opening parenthesis that was passed would have started a list closed by the same one.
    intro hmem
    obtain ⟨earlier, later, rfl⟩ := List.append_of_mem hmem
    have hclosed : ')' ∈ later ++ rest := by
      obtain ⟨-, behind, rfl⟩ := hlist
      simp
    obtain ⟨other, hother⟩ := exists_startsWithList hclosed
    have hnone := hfirst earlier ('(' :: later) rfl (by simp)
    rw [List.cons_append, capture_parenthesised.mpr hother] at hnone
    exact absurd hnone (by simp)
  · rintro ⟨head, rest, rfl, hopening, honLine, hlist⟩
    have hstops : Piece.Stops ⟨.except '\n', .fewest, false⟩ (Pattern.capture parenthesised)
        (head ++ rest) head rest list :=
      ⟨rfl, (CharClass.holds_except_iff '\n' head).mpr honLine, capture_parenthesised.mpr hlist⟩
    have hfew := Piece.few_eq_some_of_head hstops ?_
    · rw [Piece.foldr_collect_of_not_kept rfl] at hfew
      exact hfew
    · intro character others other hmem hother
      obtain ⟨-, behind, hbehind⟩ := capture_parenthesised.mp hother
      rw [List.cons.injEq] at hbehind
      rw [hbehind.1] at hmem
      exact hopening hmem

/-- What a regular function has captured is the first list behind the keyword. A line feed may stand
before it only right behind the keyword, where it counts as the optional blank. -/
theorem capture_regularPattern :
    Pattern.capture regularPattern text = some list ↔
      ∃ head rest, text = "function".toList ++ (head ++ rest) ∧ '(' ∉ head ∧ '\n' ∉ head.tail ∧
        StartsWithList rest list := by
  have hpattern : regularPattern =
      Pattern.word "function" ++ (⟨.blank, .optional, false⟩ :: ⟨.except '\n', .fewest, false⟩ ::
        parenthesised) := by
    simp only [regularPattern, List.append_assoc, List.cons_append, List.nil_append]
  have hbody (body : Text) (list : Text) :
      Pattern.capture (⟨.except '\n', .fewest, false⟩ :: parenthesised) body = some list ↔
        ∃ head rest, body = head ++ rest ∧ '(' ∉ head ∧ '\n' ∉ head ∧ StartsWithList rest list :=
    few_parenthesised
  rw [hpattern, Pattern.capture_word_append]
  constructor
  · rintro ⟨body, rfl, hcaptured⟩
    rcases (Pattern.capture_optional_iff _).mp hcaptured with
      ⟨blank, others, rfl, hblank, hfew⟩ | ⟨-, hfew⟩
    · obtain ⟨head, rest, rfl, hopening, honLine, hlist⟩ := (hbody others list).mp hfew
      refine ⟨blank :: head, rest, rfl, ?_, honLine, hlist⟩
      intro hmem
      rcases List.mem_cons.mp hmem with rfl | hmem
      · exact absurd hblank (by decide)
      · exact hopening hmem
    · obtain ⟨head, rest, rfl, hopening, honLine, hlist⟩ := (hbody body list).mp hfew
      exact ⟨head, rest, rfl, hopening, fun hmem ↦ honLine (List.mem_of_mem_tail hmem), hlist⟩
  · rintro ⟨head, rest, rfl, hopening, honLine, hlist⟩
    refine ⟨head ++ rest, rfl, (Pattern.capture_optional_iff _).mpr ?_⟩
    by_cases hblank : ∃ blank others, head = blank :: others ∧ isBlank blank
    · obtain ⟨blank, others, rfl, hblank⟩ := hblank
      rw [List.mem_cons, not_or] at hopening
      exact Or.inl ⟨blank, others ++ rest, rfl, hblank,
        (hbody _ list).mpr ⟨others, rest, rfl, hopening.2, honLine, hlist⟩⟩
    · right
      constructor
      · intro character others hsplit hholds
        cases head with
        | nil =>
          obtain ⟨-, behind, rfl⟩ := hlist
          rw [List.nil_append, List.cons.injEq] at hsplit
          rw [← hsplit.1] at hholds
          exact absurd hholds (by decide)
        | cons first remaining =>
          rw [List.cons_append, List.cons.injEq] at hsplit
          rw [← hsplit.1] at hholds
          exact absurd ⟨first, remaining, rfl, hholds⟩ hblank
      · refine (hbody _ list).mpr ⟨head, rest, rfl, hopening, ?_, hlist⟩
        intro hmem
        cases head with
        | nil => exact absurd hmem (by simp)
        | cons first remaining =>
          rcases List.mem_cons.mp hmem with hfirst | hmem
          · exact hblank ⟨first, remaining, rfl, by rw [← hfirst]; decide⟩
          · exact honLine hmem

/-! ### Regular functions as divided texts -/

/-- The text without a blank at its start. -/
def withoutBlank : Text → Text
  | [] => []
  | character :: rest => if isBlank character then rest else character :: rest

/-- A line feed is a blank, so it makes no difference whether another first character is removed. -/
theorem lineFeed_mem_withoutBlank (head : Text) :
    '\n' ∈ withoutBlank head ↔ '\n' ∈ head.tail := by
  cases head with
  | nil => rfl
  | cons first others =>
    rw [withoutBlank, List.tail_cons]
    split_ifs with hblank
    · rfl
    · have hfirst : '\n' ≠ first := by
        rintro rfl
        exact hblank (by decide)
      rw [List.mem_cons, or_iff_right hfirst]

/-- The declaration of a regular function: what stands between the keyword and the list, the list,
and what follows. -/
def regularText (head list behind : Text) : Text :=
  "function".toList ++ (head ++ '(' :: (list ++ ')' :: behind))

theorem trimStart_regularText (head list behind : Text) :
    trimStart (regularText head list behind) = regularText head list behind := by
  have hkeyword : "function".toList = ['f', 'u', 'n', 'c', 't', 'i', 'o', 'n'] := rfl
  unfold regularText
  simp only [hkeyword, List.cons_append]
  exact trimStart_cons (by decide)

/-- A text as a regular function: the keyword, a head without an opening parenthesis and, but for a
blank at its start, without a line feed, a list in parentheses, and what follows. -/
structure RegularDivision (text : Text) where
  head : Text
  list : Text
  behind : Text
  text_eq : text = regularText head list behind
  head_unopened : '(' ∉ head
  head_onLine : '\n' ∉ withoutBlank head
  list_unclosed : ')' ∉ list

/-- The list of a regular function is that of a division of its text. -/
theorem capture_regular_eq_some_iff {list : Text} :
    capture .regularFunction text = some list ↔
      ∃ division : RegularDivision text, list = trim division.list := by
  rw [capture_eq, Option.map_eq_some_iff]
  constructor
  · rintro ⟨raw, hraw, rfl⟩
    obtain ⟨head, rest, htext, hopening, honLine, hclosed, behind, rfl⟩ :=
      capture_regularPattern.mp hraw
    exact ⟨⟨head, raw, behind, htext, hopening, mt (lineFeed_mem_withoutBlank head).mp honLine,
      hclosed⟩, rfl⟩
  · rintro ⟨division, rfl⟩
    refine ⟨division.list, capture_regularPattern.mpr ?_, rfl⟩
    exact ⟨division.head, _, division.text_eq, division.head_unopened,
      mt (lineFeed_mem_withoutBlank _).mpr division.head_onLine, division.list_unclosed,
      division.behind, rfl⟩

/-- The first list behind the keyword is captured. -/
theorem capture_regularText {head list : Text} (hopening : '(' ∉ head) (honLine : '\n' ∉ head.tail)
    (hclosed : ')' ∉ list) (behind : Text) :
    capture .regularFunction (regularText head list behind) = some (trim list) :=
  capture_regular_eq_some_iff.mpr ⟨⟨head, list, behind, rfl, hopening,
    mt (lineFeed_mem_withoutBlank head).mp honLine, hclosed⟩, rfl⟩

/-- The first list stays the first one whatever is put behind it. -/
theorem capture_regular_append (hcapture : capture .regularFunction text = some list)
    (behind : Text) : capture .regularFunction (text ++ behind) = some list := by
  obtain ⟨⟨head, raw, rest, rfl, hopening, honLine, hclosed⟩, rfl⟩ :=
    capture_regular_eq_some_iff.mp hcapture
  have htext : regularText head raw rest ++ behind = regularText head raw (rest ++ behind) := by
    unfold regularText
    simp only [List.append_assoc, List.cons_append]
  rw [htext]
  exact capture_regular_eq_some_iff.mpr
    ⟨⟨head, raw, rest ++ behind, rfl, hopening, honLine, hclosed⟩, rfl⟩

/-- The head of a division reaches to the first opening parenthesis. -/
theorem RegularDivision.head_eq (division : RegularDivision text) {head inside : Text}
    (htext : text = "function".toList ++ (head ++ '(' :: inside)) (hopening : '(' ∉ head) :
    division.head = head ∧ division.list ++ ')' :: division.behind = inside := by
  have hsame := division.text_eq.symm.trans htext
  unfold regularText at hsame
  exact append_cons_inj_of_not_mem division.head_unopened hopening (List.append_cancel_left hsame)

/-- A text can be divided in one way only. -/
theorem RegularDivision.eq (first second : RegularDivision text) : first = second := by
  obtain ⟨hhead, hinside⟩ := first.head_eq second.text_eq second.head_unopened
  obtain ⟨hlist, hbehind⟩ :=
    append_cons_inj_of_not_mem first.list_unclosed second.list_unclosed hinside
  cases first
  cases second
  cases hhead
  cases hlist
  cases hbehind
  rfl

/-- What is captured of a regular function is the list of the one division of its text. Where the
text has an opening parenthesis, the first one alone decides: nothing is captured when a line feed
cuts it off from the keyword or when no closing one follows, whatever stands behind. -/
theorem capture_regular_division (text : Text) :
    (∀ list, capture .regularFunction text = some list ↔
      ∃ division : RegularDivision text, list = trim division.list) ∧
    (∀ first second : RegularDivision text, first = second) ∧
    ∀ head inside, text = "function".toList ++ (head ++ '(' :: inside) → '(' ∉ head →
      (capture .regularFunction text = none ↔ '\n' ∈ withoutBlank head ∨ ')' ∉ inside) := by
  refine ⟨fun list ↦ capture_regular_eq_some_iff, RegularDivision.eq, ?_⟩
  intro head inside htext hopening
  constructor
  · intro hnone
    by_cases honLine : '\n' ∈ withoutBlank head
    · exact Or.inl honLine
    · right
      intro hclosing
      obtain ⟨list, behind, rfl, hclosed⟩ := List.eq_append_cons_of_mem hclosing
      have hsome := capture_regular_eq_some_iff.mpr
        ⟨⟨head, list, behind, htext, hopening, honLine, hclosed⟩, rfl⟩
      rw [hnone] at hsome
      cases hsome
  · intro hunfit
    rw [Option.eq_none_iff_forall_ne_some]
    intro list hsome
    obtain ⟨division, -⟩ := capture_regular_eq_some_iff.mp hsome
    obtain ⟨rfl, rfl⟩ := division.head_eq htext hopening
    rcases hunfit with hbreak | hunclosed
    · exact division.head_onLine hbreak
    · exact hunclosed (by simp)

/-- A line feed may stand right behind the keyword and within the list, and the second of two opening
parentheses does not open another list. -/
theorem capture_regular_division_of_lineFeed :
    capture .regularFunction "function\nf(a, (\nb)".toList = some "a, (\nb".toList ∧
    capture .regularFunction "function f\n(a) (b)".toList = none := by
  constructor
  · exact ((capture_regular_division _).1 _).mpr
      ⟨⟨"\nf".toList, "a, (\nb".toList, [], by decide, by decide, by decide, by decide⟩, by decide⟩
  · exact ((capture_regular_division _).2.2 " f\n".toList "a) (b)".toList (by decide)
      (by decide)).mpr (Or.inl (by decide))

end DeclaredParams.Shape
