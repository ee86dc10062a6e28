import DeclaredParams.Proofs.Shape.Constructor
import Mathlib.Tactic.ByContra

/-!
# Classes as divided texts

A class is recognised where its text can be divided up to a constructor and its list
(`ClassDivision`). There may be several such divisions, one for each constructor with a list, but
only one for each length of what is skipped (`ClassDivision.eq_of_length`), and the list of the one
that skips most is captured (`capture_class_eq_some_iff`). On one line that can be said by the
position of the constructor, which has to be the last one with a list (`capture_class_onLine_iff`).
-/

set_option autoImplicit false
set_option relaxedAutoImplicit false

namespace DeclaredParams.Shape

open Text

variable {text : Text}

/-! ### Divisions -/

/-- A text as a class: the keyword and a blank, what is skipped up to a constructor on the same line,
the blanks behind the constructor, its list in parentheses, and what follows. -/
structure ClassDivision (text : Text) where
  blank : Char
  skipped : Text
  gap : Text
  list : Text
  behind : Text
  text_eq : text = classText blank skipped gap list behind
  blank_isBlank : isBlank blank
  skipped_onLine : '\n' ∉ skipped
  gap_onlyBlanks : OnlyBlanks gap
  list_unclosed : ')' ∉ list

namespace ClassDivision

/-- What is left behind the skipped part starts with the constructor. -/
theorem startsWithConstructor (division : ClassDivision text) :
    StartsWithConstructor (constructorText division.gap division.list ++ division.behind)
      division.list :=
  startsWithConstructor_iff.mpr
    ⟨_, _, rfl, division.gap_onlyBlanks, division.list_unclosed⟩

/-- Two divisions skip parts of the same line. -/
theorem line_eq (first second : ClassDivision text) :
    first.blank = second.blank ∧
      first.skipped ++ (constructorText first.gap first.list ++ first.behind) =
        second.skipped ++ (constructorText second.gap second.list ++ second.behind) := by
  have hsame := first.text_eq.symm.trans second.text_eq
  unfold classText at hsame
  exact List.cons.inj (List.append_cancel_left hsame)

/-- The text can be divided in one way only when the length of the skipped part is given: the blanks
end at the opening parenthesis and the list at the first closing one. -/
theorem eq_of_length (first second : ClassDivision text)
    (hlength : first.skipped.length = second.skipped.length) : first = second := by
  obtain ⟨hblank, hline⟩ := first.line_eq second
  obtain ⟨hskipped, hrest⟩ := List.append_inj hline hlength
  rw [constructorText_append, constructorText_append] at hrest
  obtain ⟨hgap, hinside⟩ := append_cons_inj_of_not_mem
    (first.gap_onlyBlanks.not_mem (by decide)) (second.gap_onlyBlanks.not_mem (by decide))
    (List.append_cancel_left hrest)
  obtain ⟨hlist, hbehind⟩ :=
    append_cons_inj_of_not_mem first.list_unclosed second.list_unclosed hinside
  cases first
  cases second
  cases hblank
  cases hskipped
  cases hgap
  cases hlist
  cases hbehind
  rfl

/-- No other division of the text skips more. -/
def SkipsMost (division : ClassDivision text) : Prop :=
  ∀ other : ClassDivision text, other.skipped.length ≤ division.skipped.length

/-- The division that skips most stops at the last constructor of the line. -/
theorem skipsMost_iff (division : ClassDivision text) :
    division.SkipsMost ↔
      LastConstructor division.skipped
        (constructorText division.gap division.list ++ division.behind) division.list := by
  constructor
  · intro hmost
    refine ⟨division.skipped_onLine, division.startsWithConstructor, ?_⟩
    intro further later other hsplit hfurther honLine hstarts
    obtain ⟨gap, behind, rfl, hgap, hclosed⟩ := startsWithConstructor_iff.mp hstarts
    have htext : text = classText division.blank (division.skipped ++ further) gap other behind := by
      have hwhole := division.text_eq
      unfold classText at hwhole ⊢
      rwa [List.append_assoc, ← hsplit]
    have hskipped : '\n' ∉ division.skipped ++ further := by
      rw [List.mem_append, not_or]
      exact ⟨division.skipped_onLine, honLine⟩
    have hle := hmost ⟨_, _, _, _, _, htext, division.blank_isBlank, hskipped, hgap, hclosed⟩
    have hsome : 0 < further.length := List.length_pos_iff.mpr hfurther
    rw [List.length_append] at hle
    omega
  · intro hlast other
    rcases List.append_eq_append_iff.mp (division.line_eq other).2 with
      ⟨further, hskipped, hsplit⟩ | ⟨missing, hskipped, -⟩
    · by_cases hempty : further = []
      · rw [hempty, List.append_nil] at hskipped
        exact Nat.le_of_eq (congrArg List.length hskipped)
      · have honLine : '\n' ∉ further := fun hmem ↦ other.skipped_onLine (by simp [hskipped, hmem])
        exact absurd other.startsWithConstructor
          (hlast.last further _ other.list hsplit hempty honLine)
    · rw [hskipped, List.length_append]
      exact Nat.le_add_right _ _

end ClassDivision

/-- The list of a class is that of the division of its text that skips most. -/
theorem capture_class_eq_some_iff {list : Text} :
    capture .classConstructor text = some list ↔
      ∃ division : ClassDivision text, division.SkipsMost ∧ list = trim division.list := by
  rw [capture_eq, Option.map_eq_some_iff]
  constructor
  · rintro ⟨raw, hraw, rfl⟩
    obtain ⟨blank, line, rfl, hblank, hline⟩ := capture_classPattern.mp hraw
    obtain ⟨skipped, rest, rfl, hlast⟩ := lastList_eq_some_iff.mp hline
    obtain ⟨gap, behind, rfl, hgap, hclosed⟩ := startsWithConstructor_iff.mp hlast.starts
    let division : ClassDivision ("class".toList ++ blank ::
        (skipped ++ (constructorText gap raw ++ behind))) :=
      ⟨blank, skipped, gap, raw, behind, rfl, hblank, hlast.onLine, hgap, hclosed⟩
    exact ⟨division, division.skipsMost_iff.mpr hlast, rfl⟩
  · rintro ⟨division, hmost, rfl⟩
    refine ⟨division.list, capture_classPattern.mpr ?_, rfl⟩
    exact ⟨division.blank, _, division.text_eq, division.blank_isBlank,
      lastList_eq_some_iff.mpr ⟨_, _, rfl, division.skipsMost_iff.mp hmost⟩⟩

/-- Where the text of a class can be divided its list is captured. -/
theorem exists_capture_class_iff :
    (∃ list, capture .classConstructor text = some list) ↔ Nonempty (ClassDivision text) := by
  constructor
  · rintro ⟨list, hcapture⟩
    obtain ⟨division, -⟩ := capture_class_eq_some_iff.mp hcapture
    exact ⟨division⟩
  · rintro ⟨division⟩
    cases hline : lastList
        (division.skipped ++ (constructorText division.gap division.list ++ division.behind)) with
    | none =>
      exact absurd division.startsWithConstructor
        (lastList_eq_none_iff.mp hline _ _ _ rfl division.skipped_onLine)
    | some raw =>
      refine ⟨trim raw, ?_⟩
      rw [capture_eq, pattern, capture_classPattern.mpr
        ⟨division.blank, _, division.text_eq, division.blank_isBlank, hline⟩, Option.map_some]

/-! ### The position of the constructor -/

/-- The keyword of a class and the blank behind it stand at the start of the text. -/
def StartsAsClass (text : Text) : Prop :=
  ∃ blank line, text = "class".toList ++ blank :: line ∧ isBlank blank

/-- Keyword and blank take up six characters. -/
theorem drop_class (blank : Char) (line : Text) (count : Nat) :
    ("class".toList ++ blank :: line).drop (6 + count) = line.drop count := by
  rw [← List.drop_drop]
  rfl

/-- The constructor of a division stands behind the keyword, the blank and the skipped part. -/
theorem ClassDivision.drop_eq (division : ClassDivision text) :
    text.drop (6 + division.skipped.length) =
      "constructor".toList ++
        (division.gap ++ '(' :: (division.list ++ ')' :: division.behind)) := by
  have hdrop := congrArg (List.drop (6 + division.skipped.length)) division.text_eq
  unfold classText at hdrop
  rw [drop_class, List.drop_left, constructorText_append] at hdrop
  exact hdrop

/-- On one line every constructor with a list, from the sixth character on, belongs to a division. -/
theorem exists_classDivision {position : Nat} {list : Text} (honLine : '\n' ∉ text)
    (hclass : StartsAsClass text) (hposition : 6 ≤ position)
    (hstarts : StartsWithConstructor (text.drop position) list) :
    ∃ division : ClassDivision text,
      division.list = list ∧ 6 + division.skipped.length = position := by
  obtain ⟨blank, line, rfl, hblank⟩ := hclass
  obtain ⟨count, rfl⟩ := Nat.exists_eq_add_of_le hposition
  obtain ⟨gap, behind, hrest, hgap, hclosed⟩ := startsWithConstructor_iff.mp hstarts
  rw [drop_class] at hrest
  have hwithin : count < line.length := by
    have hlength := congrArg List.length hrest
    rw [constructorText_append, List.length_drop, List.length_append] at hlength
    have heleven : "constructor".toList.length = 11 := rfl
    omega
  have hskipped : '\n' ∉ line.take count := by
    intro hmem
    have hline : '\n' ∈ line := List.mem_of_mem_take hmem
    exact honLine (by simp [hline])
  have hline : line = line.take count ++ (constructorText gap list ++ behind) := by
    rw [← hrest, List.take_append_drop]
  refine ⟨⟨blank, line.take count, gap, list, behind, ?_, hblank, hskipped, hgap, hclosed⟩, rfl, ?_⟩
  · exact congrArg (fun rest ↦ "class".toList ++ blank :: rest) hline
  · rw [List.length_take, Nat.min_eq_left (Nat.le_of_lt hwithin)]

/-- On one line the list of the last constructor that has one is captured. A keyword further to the
right is passed over when no opening parenthesis follows it behind blanks, or no closing one follows
that. -/
theorem capture_class_onLine_iff {list : Text} (honLine : '\n' ∉ text) :
    capture .classConstructor text = some list ↔
      StartsAsClass text ∧ ∃ position raw, 6 ≤ position ∧
        StartsWithConstructor (text.drop position) raw ∧
        (∀ later > position, ∀ gap inside,
          text.drop later = "constructor".toList ++ (gap ++ '(' :: inside) →
            OnlyBlanks gap → ')' ∉ inside) ∧
        list = trim raw := by
  rw [capture_class_eq_some_iff]
  constructor
  · rintro ⟨division, hmost, rfl⟩
    have hclass : StartsAsClass text :=
      ⟨division.blank, _, division.text_eq, division.blank_isBlank⟩
    refine ⟨hclass, 6 + division.skipped.length, division.list, Nat.le_add_right _ _, ?_, ?_, rfl⟩
    · rw [division.drop_eq, ← constructorText_append]
      exact division.startsWithConstructor
    · intro later hlater gap inside hrest hgap hclosing
      obtain ⟨other, hlist⟩ := exists_startsWithList hclosing
      obtain ⟨division', -, hposition⟩ := exists_classDivision honLine hclass (by omega)
        ⟨gap, _, hrest, hgap, hlist⟩
      have hle := hmost division'
      omega
  · rintro ⟨hclass, position, raw, hposition, hstarts, hlast, rfl⟩
    obtain ⟨division, rfl, rfl⟩ := exists_classDivision honLine hclass hposition hstarts
    refine ⟨division, ?_, rfl⟩
    intro other
    by_contra hlonger
    exact hlast (6 + other.skipped.length) (by omega) _ _ other.drop_eq other.gap_onlyBlanks
      (by simp)

/-- What is captured of a class is the list of the division of its text that skips most; there is one
such division at most, and one exactly where the text can be divided. On one line it is the list of
the last constructor that has one. -/
theorem capture_class_division (text : Text) :
    ((∃ list, capture .classConstructor text = some list) ↔ Nonempty (ClassDivision text)) ∧
    (∀ list, capture .classConstructor text = some list ↔
      ∃ division : ClassDivision text, division.SkipsMost ∧ list = trim division.list) ∧
    (∀ first second : ClassDivision text,
      first.skipped.length = second.skipped.length → first = second) ∧
    ('\n' ∉ text → ∀ list, capture .classConstructor text = some list ↔
      StartsAsClass text ∧ ∃ position raw, 6 ≤ position ∧
        StartsWithConstructor (text.drop position) raw ∧
        (∀ later > position, ∀ gap inside,
          text.drop later = "constructor".toList ++ (gap ++ '(' :: inside) →
            OnlyBlanks gap → ')' ∉ inside) ∧
        list = trim raw) :=
  ⟨exists_capture_class_iff, fun _ ↦ capture_class_eq_some_iff, ClassDivision.eq_of_length,
    fun honLine _ ↦ capture_class_onLine_iff honLine⟩

/-- Behind the list of the last constructor that has one, a keyword without a list and one whose list
is not closed are passed over. -/
theorem capture_class_division_of_passed :
    ∃ position raw, 6 ≤ position ∧
      StartsWithConstructor
        ("class A constructor (a) constructor constructor(".toList.drop position) raw ∧
      trim raw = ['a'] := by
  have hcapture : capture .classConstructor
      "class A constructor (a) constructor constructor(".toList = some ['a'] := by decide +kernel
  obtain ⟨-, position, raw, hposition, hstarts, -, hlist⟩ :=
    ((capture_class_division _).2.2.2 (by decide) _).mp hcapture
  exact ⟨position, raw, hposition, hstarts, hlist.symm⟩

end DeclaredParams.Shape
