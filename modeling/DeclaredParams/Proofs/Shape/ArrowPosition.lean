import DeclaredParams.Proofs.Shape.Arrow
import Mathlib.Tactic.SplitIfs

/-!
# Where the list of an arrow function stands

The list that an arrow function has captured is a stretch of its text, and `ArrowPositions` says
where it starts and stops: in front of the first arrow, without the blanks there, without one
closing parenthesis before them and without one opening parenthesis at the start of the text. Every
text with an arrow has these positions (`exists_arrowPositions`), and the stretch between them is
the list of `arrowList` (`ArrowPositions.arrowList_take`). So `capture_arrow_positions` can say what
is captured of any text without mentioning the order in which a match is looked for.
-/

set_option autoImplicit false
set_option relaxedAutoImplicit false

namespace DeclaredParams.Shape

open Text

variable {text : Text}

/-- The positions that decide what is captured of an arrow function: the first arrow starts at
`first` and the blanks before it at `gap`, and the list reaches from `start` to `stop`. -/
structure ArrowPositions (text : Text) (first gap start stop : Nat) : Prop where
  arrow_first : OccursFirstAt arrow text first
  blanks_before : BlanksBefore text gap first
  /-- A closing parenthesis right before the blanks does not belong to the list. -/
  stop_eq : stop = if (text.take gap).getLast? = some ')' then gap - 1 else gap
  /-- An opening parenthesis at the start of the text does not belong to the list. -/
  start_eq : start = if text.head? = some '(' then 1 else 0

/-- A text with an arrow has such positions. -/
theorem exists_arrowPositions (harrow : arrow <:+: text) :
    ∃ first gap start stop, ArrowPositions text first gap start stop := by
  cases hcut : cut? arrow text with
  | none => exact absurd harrow (cut?_eq_none_iff.mp hcut)
  | some parts =>
    have hlength := length_of_cut?_eq_some hcut
    exact ⟨_, _, _, _, occursFirstAt_of_cut? hcut, blanksBefore_trimEnd (by omega), rfl, rfl⟩

namespace ArrowPositions

variable {first gap start stop : Nat}

theorem cut?_eq (hpositions : ArrowPositions text first gap start stop) :
    cut? arrow text = some (text.take first, text.drop (first + 2)) :=
  cut?_of_occursFirstAt hpositions.arrow_first

/-- The arrow starts within the text. -/
theorem first_lt_length (hpositions : ArrowPositions text first gap start stop) :
    first < text.length := by
  have hlength := hpositions.arrow_first.isPrefix.length_le
  rw [List.length_drop] at hlength
  have htwo : arrow.length = 2 := rfl
  omega

/-- The list starts where it stops or further to the left: the parenthesis that is dropped at the
start is neither one of the blanks nor the closing one. -/
theorem start_le_stop (hpositions : ArrowPositions text first gap start stop) : start ≤ stop := by
  rw [hpositions.start_eq, hpositions.stop_eq]
  by_cases hopening : text.head? = some '('
  · obtain ⟨rest, rfl⟩ := List.head?_eq_some_iff.mp hopening
    have hstart : first ≠ 0 := by
      rintro rfl
      have harrow := hpositions.arrow_first.isPrefix
      rw [List.drop_zero, arrow, List.cons_prefix_cons] at harrow
      exact absurd harrow.1 (by decide)
    have hgap : gap ≠ 0 := by
      rintro rfl
      obtain ⟨before, rfl⟩ := Nat.exists_eq_succ_of_ne_zero hstart
      have hblank := hpositions.blanks_before.onlyBlanks '(' (by simp)
      exact absurd hblank (by decide)
    rw [if_pos hopening]
    split_ifs with hclosing
    · have hone : gap ≠ 1 := by
        rintro rfl
        exact absurd hclosing (by simp)
      omega
    · omega
  · rw [if_neg hopening]
    exact Nat.zero_le _

/-- Between the start of the text and the arrow stands what `arrowList` takes for the list. -/
theorem arrowList_take (hpositions : ArrowPositions text first gap start stop) :
    arrowList (text.take first) = text.extract start stop := by
  have hclosing : withoutClosing (text.take gap) = text.take stop := by
    rw [withoutClosing, hpositions.stop_eq]
    have hgap := hpositions.blanks_before.start_le
    have hlength := hpositions.first_lt_length
    split_ifs
    · rw [List.dropLast_take (by omega)]
    · rfl
  have hopening : withoutOpening (text.take stop) = (text.take stop).drop start := by
    have hle := hpositions.start_le_stop
    rw [withoutOpening_eq_drop, List.head?_take]
    by_cases hstop : stop = 0
    · have hstart : start = 0 := by omega
      rw [if_pos hstop, if_neg (by simp), hstart]
    · rw [if_neg hstop, ← hpositions.start_eq]
  rw [arrowList, trimEnd_take hpositions.blanks_before, hclosing, hopening, List.drop_take]

/-- The text up to the first arrow has the same positions whatever follows the arrow. -/
theorem capture_take_append (hpositions : ArrowPositions text first gap start stop)
    (behind : Text) :
    capture .arrowFunction (text.take first ++ arrow ++ behind) = capture .arrowFunction text := by
  have hbefore := not_isInfix_of_cut? (List.cons_ne_nil _ _) hpositions.cut?_eq
  have hcut : cut? arrow (text.take first ++ arrow ++ behind) = some (text.take first, behind) := by
    rw [List.append_assoc]
    exact cut?_pair (by decide) hbefore
  rw [capture_eq, capture_eq, pattern, capture_arrowPattern, capture_arrowPattern, hcut,
    hpositions.cut?_eq]
  rfl

/-- The stretch between the positions is captured when it is on one line. -/
theorem capture_eq_extract (hpositions : ArrowPositions text first gap start stop) :
    capture .arrowFunction text =
      if '\n' ∈ text.extract start stop then none else some (trim (text.extract start stop)) := by
  rw [capture_eq, pattern, capture_arrowPattern, hpositions.cut?_eq, Option.bind_some,
    hpositions.arrowList_take]
  split_ifs <;> rfl

/-- Where the pieces behind the optional opening parenthesis do not match, they do not match with
the parenthesis among what they read either. -/
theorem capture_tail_eq_none (hpositions : ArrowPositions text first gap start stop)
    (hnone : Pattern.capture arrowPattern.tail (text.drop start) = none) :
    Pattern.capture arrowPattern.tail text = none := by
  change captureList (text.drop start) = none at hnone
  change captureList text = none
  rw [hpositions.start_eq] at hnone
  split_ifs at hnone with hopening
  · obtain ⟨rest, rfl⟩ := List.head?_eq_some_iff.mp hopening
    rw [captureList_cons, Option.map_eq_none_iff]
    exact hnone
  · exact hnone

end ArrowPositions

/-- What is captured of an arrow function. Without an arrow it is nothing. Otherwise the positions
exist, the list between them is captured when it is on one line, neither another arrow nor anything
else behind the first one matters, and where the match fails behind the opening parenthesis, giving
up that parenthesis does not help. -/
theorem capture_arrow_positions (text : Text) :
    (¬ arrow <:+: text → capture .arrowFunction text = none) ∧
    (arrow <:+: text → ∃ first gap start stop, ArrowPositions text first gap start stop) ∧
    ∀ first gap start stop, ArrowPositions text first gap start stop →
      start ≤ stop ∧
      capture .arrowFunction text =
        (if '\n' ∈ text.extract start stop then none
        else some (trim (text.extract start stop))) ∧
      (∀ behind, capture .arrowFunction (text.take first ++ arrow ++ behind) =
        capture .arrowFunction text) ∧
      (Pattern.capture arrowPattern.tail (text.drop start) = none →
        Pattern.capture arrowPattern.tail text = none) := by
  refine ⟨capture_arrow_eq_none, exists_arrowPositions, ?_⟩
  intro first gap start stop hpositions
  exact ⟨hpositions.start_le_stop, hpositions.capture_eq_extract, hpositions.capture_take_append,
    hpositions.capture_tail_eq_none⟩

/-- Of two parentheses on either side one is dropped, blanks before the arrow may break the line, and
a second arrow does not matter. -/
theorem capture_arrow_positions_of_nested :
    ArrowPositions "((a)) \n=> b => c".toList 7 5 1 4 ∧
    capture .arrowFunction "((a)) \n=> b => c".toList = some "(a)".toList := by
  have hclosing : ∀ character ∈ ("((a)) \n=> b => c".toList.take 5).getLast?,
      isBlank character = false := by
    intro character hlast
    obtain rfl : ')' = character := Option.some.inj hlast
    decide
  have hpositions : ArrowPositions "((a)) \n=> b => c".toList 7 5 1 4 :=
    ⟨⟨by decide, by decide⟩, ⟨by decide, by decide, hclosing⟩, by decide, by decide⟩
  obtain ⟨-, hcapture, -, -⟩ := (capture_arrow_positions _).2.2 _ _ _ _ hpositions
  refine ⟨hpositions, hcapture.trans ?_⟩
  decide

end DeclaredParams.Shape
