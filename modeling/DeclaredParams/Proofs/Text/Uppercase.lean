import DeclaredParams.Proofs.Text.Trimming
import DeclaredParams.Text.Uppercase

/-!
# Capital forms in ASCII

A character is plain when it belongs to ASCII or is white space. The full mapping does to plain
characters what ASCII does, and nothing else (`uppercase_eq_map`). A character that is not plain has
its capital form from one of the two tables or is its own (`uppercaseCharacter_cases`), and what it
takes from ASCII then is one of eleven letters (`mem_borrowedCapitals`).
-/

set_option autoImplicit false
set_option relaxedAutoImplicit false

namespace DeclaredParams.Text

variable {text : Text} {character : Char}

/-! ### The tables -/

/-- A capital form is that of a run, that of the table of expansions, or the character. -/
theorem uppercaseCharacter_cases (character : Char) :
    (∃ run ∈ caseRuns, (run.first ≤ character.toNat ∧ character.toNat ≤ run.last) ∧
      uppercaseCharacter character = [run.capital character.toNat]) ∨
    (∃ expansion ∈ expansions, expansion.1 = character.toNat ∧
      uppercaseCharacter character = expansion.2.map Char.ofNat) ∨
    uppercaseCharacter character = [character] := by
  rw [uppercaseCharacter]
  cases hrun : caseRuns.find? fun run ↦ run.holds character.toNat with
  | some run =>
    have hholds := List.find?_some hrun
    simp only [CaseRun.holds, Bool.and_eq_true, decide_eq_true_iff] at hholds
    exact Or.inl ⟨run, List.mem_of_find?_eq_some hrun, hholds.1, rfl⟩
  | none =>
    refine Or.inr ?_
    cases hexpansion : expansions.lookup character.toNat with
    | some capitals =>
      obtain ⟨front, behind, hsplit, -⟩ := List.lookup_eq_some_iff.mp hexpansion
      have hmem : (character.toNat, capitals) ∈ expansions := by
        rw [hsplit]
        exact List.mem_append_right front List.mem_cons_self
      exact Or.inl ⟨_, hmem, rfl, rfl⟩
    | none => exact Or.inr rfl

theorem expansions_ne_nil : ∀ expansion ∈ expansions, expansion.2 ≠ [] := by decide +kernel

/-- No character is lost. -/
theorem uppercaseCharacter_ne_nil (character : Char) : uppercaseCharacter character ≠ [] := by
  rcases uppercaseCharacter_cases character with ⟨run, -, -, hcapital⟩ |
    ⟨expansion, hmem, -, hcapital⟩ | hcapital
  · rw [hcapital]
    exact List.cons_ne_nil _ _
  · rw [hcapital, Ne, List.map_eq_nil_iff]
    exact expansions_ne_nil expansion hmem
  · rw [hcapital]
    exact List.cons_ne_nil _ _

/-! ### Plain characters -/

/-- A character of ASCII, or white space. -/
def IsPlain (character : Char) : Prop :=
  character.toNat < 128 ∨ isBlank character = true

instance (character : Char) : Decidable (IsPlain character) :=
  inferInstanceAs (Decidable (_ ∨ _))

/-- The ranges of scalar values of plain characters, ends included. -/
def plainRanges : List (Nat × Nat) :=
  (0x0000, 0x007F) :: blankRanges

theorem IsPlain.exists_range (hplain : IsPlain character) :
    ∃ range ∈ plainRanges, range.1 ≤ character.toNat ∧ character.toNat ≤ range.2 := by
  rcases hplain with hascii | hblank
  · exact ⟨(0, 127), List.mem_cons_self, Nat.zero_le _, Nat.le_of_lt_succ hascii⟩
  · obtain ⟨range, hrange, hwithin⟩ := List.any_eq_true.mp hblank
    rw [Bool.and_eq_true, decide_eq_true_iff, decide_eq_true_iff] at hwithin
    exact ⟨range, List.mem_cons_of_mem _ hrange, hwithin⟩

/-- The only plain characters in the tables are the small letters of ASCII. -/
theorem caseRuns_disjoint_plainRanges :
    ∀ run ∈ caseRuns, run.first = 0x0061 ∧ run.last = 0x007A ∨
      ∀ range ∈ plainRanges, run.last < range.1 ∨ range.2 < run.first := by
  decide +kernel

theorem expansions_disjoint_plainRanges :
    ∀ expansion ∈ expansions, ∀ range ∈ plainRanges,
      expansion.1 < range.1 ∨ range.2 < expansion.1 := by
  decide +kernel

theorem isLower_iff :
    character.isLower = true ↔ 0x0061 ≤ character.toNat ∧ character.toNat ≤ 0x007A := by
  change (decide ('a'.val ≤ character.val) && decide (character.val ≤ 'z'.val)) = true ↔ _
  rw [Bool.and_eq_true, decide_eq_true_iff, decide_eq_true_iff]
  rfl

/-- A character is one of the 26 small letters, or it is its own capital. -/
theorem toUpper_cases {motive : Char → Char → Prop}
    (hletters : ∀ value ∈ List.range' 0x0061 26,
      motive (Char.ofNat value) (Char.ofNat value).toUpper)
    (hsame : character.isLower = false → motive character character) :
    motive character character.toUpper := by
  cases hlower : character.isLower with
  | true =>
    have hvalue := isLower_iff.mp hlower
    have hletter := hletters character.toNat (List.mem_range'_1.mpr (by omega))
    rwa [Char.ofNat_toNat] at hletter
  | false =>
    have hkept : character.toUpper = character :=
      dif_neg fun hbounds ↦ Bool.false_ne_true (hlower.symm.trans (isLower_iff.mpr hbounds))
    rw [hkept]
    exact hsame hlower

theorem uppercaseCharacter_of_isPlain (hplain : IsPlain character) :
    uppercaseCharacter character = [character.toUpper] := by
  apply toUpper_cases (motive := fun letter capital ↦ uppercaseCharacter letter = [capital])
  · decide +kernel
  · intro hlower
    obtain ⟨range, hrange, hwithin⟩ := hplain.exists_range
    rcases uppercaseCharacter_cases character with ⟨run, hmem, hbounds, -⟩ |
      ⟨expansion, hmem, hkey, -⟩ | hcapital
    · rcases caseRuns_disjoint_plainRanges run hmem with hletters | hdisjoint
      · rw [hletters.1, hletters.2, ← isLower_iff, hlower] at hbounds
        cases hbounds
      · have hapart := hdisjoint range hrange
        omega
    · have hapart := expansions_disjoint_plainRanges expansion hmem range hrange
      omega
    · exact hcapital

/-- The capitals of a plain text stand at the places of its characters. -/
theorem uppercase_eq_map (htext : ∀ character ∈ text, IsPlain character) :
    uppercase text = text.map Char.toUpper := by
  induction text with
  | nil => rfl
  | cons first others ih =>
    rw [List.forall_mem_cons] at htext
    rw [uppercase, List.flatMap_cons, uppercaseCharacter_of_isPlain htext.1, ← uppercase,
      ih htext.2]
    rfl

/-! ### Other characters -/

/-- The letters of ASCII in capital forms of characters that are not plain. -/
def borrowedCapitals : Text :=
  ['A', 'F', 'H', 'I', 'J', 'L', 'N', 'S', 'T', 'W', 'Y']

/-- A run of other letters has one letter with a borrowed capital, or none of its capitals, all of
which are scalar values, is plain. -/
theorem caseRuns_borrow :
    ∀ run ∈ caseRuns, run.last < 0x0080 ∨
      run.first = run.last ∧ run.capital run.first ∈ borrowedCapitals ∨
      (0 ≤ run.first + run.offset ∧ run.last + run.offset < 0x110000) ∧
        ∀ range ∈ (0xD800, 0xDFFF) :: plainRanges,
          run.last + run.offset < range.1 ∨ range.2 < run.first + run.offset := by
  decide +kernel

theorem expansions_borrow :
    ∀ expansion ∈ expansions, ∀ value ∈ expansion.2,
      IsPlain (Char.ofNat value) → Char.ofNat value ∈ borrowedCapitals := by
  decide +kernel

theorem toNat_ofNat {value : Nat} (hvalid : value.isValidChar) :
    (Char.ofNat value).toNat = value := by
  rw [Char.ofNat, dif_pos hvalid]
  rfl

/-- What other characters have of plain ones in their capital forms is borrowed. -/
theorem mem_borrowedCapitals (hother : ¬ IsPlain character) {capital : Char}
    (hmem : capital ∈ uppercaseCharacter character) (hplain : IsPlain capital) :
    capital ∈ borrowedCapitals := by
  rcases uppercaseCharacter_cases character with ⟨run, hrun, hbounds, hcapital⟩ |
    ⟨expansion, hexpansion, -, hcapital⟩ | hcapital
  · rw [hcapital, List.mem_singleton] at hmem
    subst hmem
    rcases caseRuns_borrow run hrun with hascii | ⟨hsingle, hborrowed⟩ | ⟨hlimits, hapart⟩
    · exact absurd (Or.inl (by omega)) hother
    · rwa [show character.toNat = run.first by omega]
    · have hvalid : (character.toNat + run.offset).toNat.isValidChar := by
        have hsurrogate := hapart _ List.mem_cons_self
        simp only [Nat.isValidChar]
        omega
      obtain ⟨range, hrange, hwithin⟩ := hplain.exists_range
      rw [CaseRun.capital, toNat_ofNat hvalid] at hwithin
      have hdisjoint := hapart range (List.mem_cons_of_mem _ hrange)
      omega
  · rw [hcapital] at hmem
    obtain ⟨value, hvalue, rfl⟩ := List.mem_map.mp hmem
    exact expansions_borrow expansion hexpansion value hvalue hplain
  · rw [hcapital, List.mem_singleton] at hmem
    exact absurd (hmem ▸ hplain) hother

end DeclaredParams.Text
