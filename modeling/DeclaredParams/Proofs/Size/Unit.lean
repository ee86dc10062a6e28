import DeclaredParams.Proofs.Text.Uppercase
import DeclaredParams.Size
import Mathlib.Tactic.ByContra

/-!
# Marks of units

Units are marked by a letter in either case, alone or followed by B (`MarksUnit`), and the names
that are looked for in capitals are the capitals of these marks (`marksUnit_iff`). No name is the
end of another one, so the order in which they are tried does not matter (`splitUnit_append`). The
capitals do not make other texts look like sizes: no character that belongs neither to ASCII nor to
white space has a capital form made of what sizes are made of (`isPlain_of_inSize`).
-/

set_option autoImplicit false
set_option relaxedAutoImplicit false

namespace DeclaredParams.Size

open Text

/-! ### Characters of sizes -/

section Characters

variable {text : Text} {character : Char}

/-- A digit, a blank or a plus sign, which have no capitals. -/
def Caseless (character : Char) : Prop :=
  character.isDigit = true ∨ isBlank character = true ∨ character = '+'

instance (character : Char) : Decidable (Caseless character) :=
  inferInstanceAs (Decidable (_ ∨ _))

/-- What stands in a size once its letters are capitals. -/
def InSize (character : Char) : Prop :=
  Caseless character ∨ character ∈ ['B', 'G', 'K', 'M']

instance (character : Char) : Decidable (InSize character) :=
  inferInstanceAs (Decidable (_ ∨ _))

theorem toUpper_of_caseless (hcaseless : Caseless character ∨ Caseless character.toUpper) :
    character.toUpper = character := by
  revert hcaseless
  apply toUpper_cases
    (motive := fun letter capital ↦ Caseless letter ∨ Caseless capital → capital = letter)
  · decide +kernel
  · exact fun _ _ ↦ rfl

/-- Characters without case, before or after the capitals are taken, are kept. -/
theorem map_toUpper_of_caseless
    (htext : ∀ character ∈ text, Caseless character ∨ Caseless character.toUpper) :
    text.map Char.toUpper = text := by
  rw [List.map_congr_left fun character hmem ↦ toUpper_of_caseless (htext character hmem)]
  exact List.map_id' text

theorem isDigit_iff :
    character.isDigit = true ↔ 0x0030 ≤ character.toNat ∧ character.toNat ≤ 0x0039 := by
  simp [Char.isDigit, UInt32.le_iff_toNat_le]

theorem blankRanges_disjoint_digits :
    ∀ range ∈ blankRanges, range.2 < 0x0030 ∨ 0x0039 < range.1 := by
  decide +kernel

theorem isBlank_of_isDigit (hdigit : character.isDigit = true) : isBlank character = false := by
  rw [isDigit_iff] at hdigit
  rw [isBlank, List.any_eq_false]
  intro range hrange
  have hapart := blankRanges_disjoint_digits range hrange
  simp only [Bool.and_eq_true, decide_eq_true_iff]
  omega

theorem InSize.isPlain (hinside : InSize character) : IsPlain character := by
  rcases hinside with (hdigit | hblank | rfl) | hletter
  · exact Or.inl (by have hbounds := isDigit_iff.mp hdigit; omega)
  · exact Or.inr hblank
  · decide
  · simp only [List.mem_cons, List.not_mem_nil, or_false] at hletter
    rcases hletter with rfl | rfl | rfl | rfl <;> decide

/-- No borrowed capital stands in a size. -/
theorem borrowedCapitals_not_inSize :
    borrowedCapitals.all fun capital ↦ ¬ InSize capital := by
  decide +kernel

/-- Capital forms that may stand in a size are those of plain characters. -/
theorem isPlain_of_inSize (hinside : ∀ capital ∈ uppercaseCharacter character, InSize capital) :
    IsPlain character := by
  by_contra hother
  obtain ⟨capital, hmem⟩ := List.exists_mem_of_ne_nil _ (uppercaseCharacter_ne_nil character)
  have hborrowed := mem_borrowedCapitals hother hmem (hinside capital hmem).isPlain
  have houtside := List.all_eq_true.mp borrowedCapitals_not_inSize capital hborrowed
  exact of_decide_eq_true houtside (hinside capital hmem)

theorem uppercase_eq_map_of_inSize (hinside : ∀ capital ∈ uppercase text, InSize capital) :
    uppercase text = text.map Char.toUpper := by
  refine uppercase_eq_map fun character hmem ↦ isPlain_of_inSize fun capital hcapital ↦ ?_
  exact hinside capital (List.mem_flatMap.mpr ⟨character, hmem, hcapital⟩)

end Characters

/-! ### Units -/

section Units

variable {text number name mark : Text} {character : Char} {bytes : Nat}

/-- The letters of the units, in either case, and the number of bytes in each unit. -/
def unitLetters : List (Char × Nat) :=
  [('K', 1024), ('k', 1024), ('M', 1024 * 1024), ('m', 1024 * 1024), ('G', 1024 * 1024 * 1024),
   ('g', 1024 * 1024 * 1024)]

/-- The mark of a unit, and the number of bytes in the unit. -/
inductive MarksUnit : Text → Nat → Prop
  /-- Bytes have no mark. -/
  | bytes : MarksUnit [] 1
  /-- A letter stands alone. -/
  | letter {letter : Char} {bytes : Nat} (hletter : (letter, bytes) ∈ unitLetters) :
    MarksUnit [letter] bytes
  /-- A letter is followed by B. -/
  | letterB {letter last : Char} {bytes : Nat} (hletter : (letter, bytes) ∈ unitLetters)
    (hlast : last = 'B' ∨ last = 'b') : MarksUnit [letter, last] bytes

theorem isPlain_of_mem_unitLetters : ∀ unit ∈ unitLetters, IsPlain unit.1 := by decide

theorem MarksUnit.isPlain_of_mem (hmark : MarksUnit mark bytes) (hmem : character ∈ mark) :
    IsPlain character := by
  rcases hmark with _ | hletter | ⟨hletter, hlast⟩
  · cases hmem
  · rw [List.mem_singleton.mp hmem]
    exact isPlain_of_mem_unitLetters _ hletter
  · rcases List.mem_cons.mp hmem with rfl | hmem
    · exact isPlain_of_mem_unitLetters _ hletter
    · rw [List.mem_singleton.mp hmem]
      rcases hlast with rfl | rfl <;> decide

/-- A letter stands for the unit of its capital. -/
theorem mem_unitLetters_of_toUpper {letter : Char}
    (hletter : (letter.toUpper, bytes) ∈ unitLetters) : (letter, bytes) ∈ unitLetters := by
  have hcase : ∀ unit ∈ unitLetters, unit.1 = letter.toUpper → (letter, unit.2) ∈ unitLetters := by
    apply toUpper_cases (motive := fun letter capital ↦
      ∀ unit ∈ unitLetters, unit.1 = capital → (letter, unit.2) ∈ unitLetters)
    · decide +kernel
    · rintro - unit hunit rfl
      exact hunit
  exact hcase _ hletter rfl

theorem eq_of_toUpper_eq_B {last : Char} (hlast : last.toUpper = 'B') :
    last = 'B' ∨ last = 'b' := by
  revert hlast
  apply toUpper_cases (motive := fun letter capital ↦ capital = 'B' → letter = 'B' ∨ letter = 'b')
  · decide +kernel
  · exact fun _ ↦ Or.inl

/-- The name of a unit is a letter, alone or followed by B, and each letter has both names. -/
theorem units_letters :
    (∀ unit ∈ units, ∃ letter ∈ unitLetters,
      (unit.1 = [letter.1] ∨ unit.1 = [letter.1, 'B']) ∧ unit.2 = letter.2) ∧
    ∀ letter ∈ unitLetters, ([letter.1.toUpper], letter.2) ∈ units ∧
      ([letter.1.toUpper, 'B'], letter.2) ∈ units := by
  decide

/-- The marks are the names of the units in any case. -/
theorem marksUnit_iff :
    MarksUnit mark bytes ↔
      mark = [] ∧ bytes = 1 ∨ (mark.map Char.toUpper, bytes) ∈ units := by
  constructor
  · rintro (_ | hletter | ⟨hletter, rfl | rfl⟩)
    · exact Or.inl ⟨rfl, rfl⟩
    · exact Or.inr (units_letters.2 _ hletter).1
    · exact Or.inr (units_letters.2 _ hletter).2
    · exact Or.inr (units_letters.2 _ hletter).2
  · rintro (⟨rfl, rfl⟩ | hmem)
    · exact .bytes
    · obtain ⟨⟨capital, unit⟩, hunit, hname, rfl⟩ := units_letters.1 _ hmem
      rcases hname with halone | hfollowed
      · obtain ⟨letter, rfl, rfl⟩ := List.map_eq_singleton_iff.mp halone
        exact .letter (mem_unitLetters_of_toUpper hunit)
      · obtain ⟨letter, others, rfl, rfl, hothers⟩ := List.map_eq_cons_iff.mp hfollowed
        obtain ⟨last, rfl, hlast⟩ := List.map_eq_singleton_iff.mp hothers
        exact .letterB (mem_unitLetters_of_toUpper hunit) (eq_of_toUpper_eq_B hlast)

theorem units_positive : ∀ unit ∈ units, 1 ≤ unit.2 := by decide

theorem units_capitals : ∀ unit ∈ units, unit.1 ⊆ ['B', 'G', 'K', 'M'] := by decide

/-- No name of a unit is the end of another one. -/
theorem units_apart :
    ∀ unit ∈ units, ∀ other ∈ units, unit.1 <:+ other.1 → unit = other := by
  decide

/-- A text that ends in the name of a unit is divided in front of it. -/
theorem splitUnit_append (hunit : (name, bytes) ∈ units) :
    splitUnit (number ++ name) = (number, bytes) := by
  cases hfound : units.find? fun unit ↦ unit.1.isSuffixOf (number ++ name) with
  | none =>
    have hmissing := List.find?_eq_none.mp hfound _ hunit
    simp at hmissing
  | some found =>
    have hends : found.1 <:+ number ++ name := by
      simpa using List.find?_some hfound
    have hmem := List.mem_of_find?_eq_some hfound
    obtain rfl : found = (name, bytes) := by
      rcases List.suffix_or_suffix_of_suffix hends (List.suffix_append number name) with h | h
      · exact units_apart _ hmem _ hunit h
      · exact (units_apart _ hunit _ hmem h).symm
    simp [splitUnit, hfound]

theorem units_not_caseless : ∀ unit ∈ units, unit.1.any fun letter ↦ ¬ Caseless letter := by
  decide +kernel

/-- A text without the letters of units is not divided. -/
theorem splitUnit_of_caseless (htext : ∀ character ∈ text, Caseless character) :
    splitUnit text = (text, 1) := by
  have hnone : units.find? (fun unit ↦ unit.1.isSuffixOf text) = none := by
    rw [List.find?_eq_none]
    intro unit hunit hends
    obtain ⟨letter, hmem, hletter⟩ := List.any_eq_true.mp (units_not_caseless unit hunit)
    have hmissing := htext letter ((List.isSuffixOf_iff_suffix.mp hends).subset hmem)
    exact of_decide_eq_true hletter hmissing
  simp [splitUnit, hnone]

/-- A division loses nothing but the name of a unit. -/
theorem exists_of_splitUnit (hsplit : splitUnit text = (number, bytes)) :
    ∃ name, text = number ++ name ∧ (name = [] ∧ bytes = 1 ∨ (name, bytes) ∈ units) := by
  rw [splitUnit] at hsplit
  cases hfound : units.find? fun unit ↦ unit.1.isSuffixOf text with
  | none =>
    rw [hfound] at hsplit
    cases hsplit
    exact ⟨[], by simp, Or.inl ⟨rfl, rfl⟩⟩
  | some found =>
    rw [hfound] at hsplit
    cases hsplit
    have hends : found.1 <:+ text := by
      simpa using List.find?_some hfound
    exact ⟨found.1, (List.suffix_iff_eq_append.mp hends).symm,
      Or.inr (List.mem_of_find?_eq_some hfound)⟩

end Units

end DeclaredParams.Size
