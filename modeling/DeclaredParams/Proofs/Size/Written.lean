import DeclaredParams.Proofs.Size.Unit
import Mathlib.Data.Nat.Digits.Defs

/-!
# The written form of sizes

A `Written` size is a decimal number, with or without a plus sign in front, and the mark of a unit,
with or without blanks between them. `Written.parseSize_eq` says what becomes of a written size, and
`exists_written` that there is a number in front of the unit of no other text. So reading accepts
the written sizes whose bytes fit into 64 bits, with blanks around them, and says of every other
text whether it is the number or the product that does not fit (`parseSize_outcomes`).
-/

set_option autoImplicit false
set_option relaxedAutoImplicit false

namespace DeclaredParams

open Text

namespace Size

/-! ### Numbers -/

section Numbers

variable {digits blanks : Text} {signed : Bool} {character : Char} {count : Nat}

/-- The number that decimal digits write, the last of them counting single bytes. -/
def decimalValue (digits : Text) : Nat :=
  Nat.ofDigits 10 (digits.reverse.map fun digit ↦ digit.toNat - '0'.toNat)

theorem digitsValue_eq (digits : Text) : digitsValue digits = decimalValue digits := by
  rw [digitsValue, decimalValue, Nat.ofDigits_eq_foldr, List.foldr_map, List.foldr_reverse]
  refine congrArg (fun step ↦ digits.foldl step 0) ?_
  funext value digit
  exact Nat.add_comm _ _

/-- The plus sign that may stand in front of a number. -/
def sign (signed : Bool) : Text :=
  if signed then ['+'] else []

theorem eq_or_isDigit_of_mem (hdigits : ∀ digit ∈ digits, digit.isDigit = true)
    (hmem : character ∈ sign signed ++ digits) : character = '+' ∨ character.isDigit = true := by
  rcases List.mem_append.mp hmem with hsign | hdigit
  · rw [sign] at hsign
    split at hsign
    · exact Or.inl (List.mem_singleton.mp hsign)
    · cases hsign
  · exact Or.inr (hdigits character hdigit)

/-- A number and blanks behind it have no case. -/
theorem caseless_of_mem_number (hdigits : ∀ digit ∈ digits, digit.isDigit = true)
    (hblanks : OnlyBlanks blanks) (hmem : character ∈ sign signed ++ digits ++ blanks) :
    Caseless character := by
  rcases List.mem_append.mp hmem with hnumber | hblank
  · rcases eq_or_isDigit_of_mem hdigits hnumber with hsign | hdigit
    · exact Or.inr (Or.inr hsign)
    · exact Or.inl hdigit
  · exact Or.inr (Or.inl (hblanks character hblank))

/-- What follows the sign. -/
def unsigned : Text → Text
  | '+' :: digits => digits
  | digits => digits

/-- The number of 64 bits that digits alone write. -/
def parseDigits (digits : Text) : Option Nat :=
  if !digits.isEmpty && digits.all Char.isDigit && digitsValue digits < UInt64.size then
    some (digitsValue digits)
  else none

/-- Reading a number passes over one sign. -/
theorem parseNumber_eq (text : Text) : parseNumber text = parseDigits (unsigned text) := rfl

theorem unsigned_sign_append (signed : Bool) (hdigits : '+' ∉ digits) :
    unsigned (sign signed ++ digits) = digits := by
  cases signed with
  | true => rfl
  | false =>
    rw [sign, if_neg Bool.false_ne_true, List.nil_append]
    unfold unsigned
    split
    · simp at hdigits
    · rfl

theorem exists_sign_append (text : Text) : ∃ signed, text = sign signed ++ unsigned text := by
  unfold unsigned
  split
  · exact ⟨true, rfl⟩
  · exact ⟨false, rfl⟩

/-- Digits are read as they are written when their number has 64 bits. -/
theorem parseDigits_eq (hsome : digits ≠ []) (hdigits : ∀ digit ∈ digits, digit.isDigit = true) :
    parseDigits digits =
      if decimalValue digits < 2 ^ 64 then some (decimalValue digits) else none := by
  rw [parseDigits, List.isEmpty_eq_false_iff.mpr hsome, List.all_eq_true.mpr hdigits,
    digitsValue_eq]
  simp [UInt64.size]

/-- Nothing but digits is read. -/
theorem isDigit_of_parseDigits (hread : parseDigits digits = some count) :
    digits ≠ [] ∧ ∀ digit ∈ digits, digit.isDigit = true := by
  rw [parseDigits] at hread
  split at hread
  next hdecimal =>
    simp only [Bool.and_eq_true, Bool.not_eq_true', List.isEmpty_eq_false_iff,
      List.all_eq_true] at hdecimal
    exact hdecimal.1
  next => cases hread

end Numbers

/-! ### Written sizes -/

/-- A decimal number, with or without a plus sign, and the mark of a unit, with or without blanks
between them. -/
structure Written where
  /-- Whether a plus sign stands in front. -/
  signed : Bool
  /-- The digits of the number. -/
  digits : Text
  /-- The blanks behind the number. -/
  blanks : Text
  /-- The mark of the unit. -/
  mark : Text
  /-- The number of bytes in the unit. -/
  unit : Nat
  digits_ne_nil : digits ≠ []
  isDigit : ∀ digit ∈ digits, digit.isDigit = true
  onlyBlanks : OnlyBlanks blanks
  marksUnit : MarksUnit mark unit

namespace Written

variable (size : Written)

/-- The characters of the number. -/
def number : Text :=
  sign size.signed ++ size.digits

/-- The characters of the size. -/
def text : Text :=
  size.number ++ size.blanks ++ size.mark

/-- The value of the number. -/
def count : Nat :=
  decimalValue size.digits

theorem caseless_of_mem {character : Char} (hmem : character ∈ size.number ++ size.blanks) :
    Caseless character :=
  caseless_of_mem_number size.isDigit size.onlyBlanks hmem

theorem isPlain_of_mem {character : Char} (hmem : character ∈ size.text) : IsPlain character := by
  rcases List.mem_append.mp hmem with hfront | hmark
  · exact InSize.isPlain (Or.inl (size.caseless_of_mem hfront))
  · exact size.marksUnit.isPlain_of_mem hmark

/-- Only the mark has capitals. -/
theorem map_toUpper_text :
    size.text.map Char.toUpper = size.number ++ size.blanks ++ size.mark.map Char.toUpper := by
  rw [text, List.map_append]
  rw [map_toUpper_of_caseless fun _ hmem ↦ Or.inl (size.caseless_of_mem hmem)]

theorem splitUnit_capitals :
    splitUnit (uppercase size.text) = (size.number ++ size.blanks, size.unit) := by
  rw [uppercase_eq_map fun _ hmem ↦ size.isPlain_of_mem hmem, map_toUpper_text]
  rcases marksUnit_iff.mp size.marksUnit with ⟨hmark, hunit⟩ | hunit
  · rw [hmark, hunit, List.map_nil, List.append_nil]
    exact splitUnit_of_caseless fun _ hmem ↦ size.caseless_of_mem hmem
  · exact splitUnit_append hunit

theorem trim_number : trim (size.number ++ size.blanks) = size.number := by
  rw [trim_append_right size.onlyBlanks]
  apply trim_eq_self
  intro character hmem
  rcases eq_or_isDigit_of_mem size.isDigit hmem with rfl | hdigit
  · decide +kernel
  · exact isBlank_of_isDigit hdigit

theorem parseNumber_number :
    parseNumber size.number = if size.count < 2 ^ 64 then some size.count else none := by
  have hsign : '+' ∉ size.digits := by
    intro hmem
    exact absurd (size.isDigit '+' hmem) (by decide)
  rw [parseNumber_eq, number, unsigned_sign_append size.signed hsign,
    parseDigits_eq size.digits_ne_nil size.isDigit, count]

/-- What becomes of a written size depends on where 64 bits are exceeded. -/
theorem parseSize_eq {text : Text} (hwritten : trim text = size.text) :
    parseSize text =
      if size.count < 2 ^ 64 then
        if size.count * size.unit < 2 ^ 64 then .ok (UInt64.ofNat (size.count * size.unit))
        else .error (.tooLarge (size.text.map Char.toUpper))
      else .error (.invalidNumber (size.number ++ size.blanks)) := by
  rw [parseSize, hwritten]
  dsimp only
  rw [size.splitUnit_capitals, size.trim_number, size.parseNumber_number,
    uppercase_eq_map fun _ hmem ↦ size.isPlain_of_mem hmem]
  by_cases hcount : size.count < 2 ^ 64
  · rw [if_pos hcount, if_pos hcount]
    rfl
  · rw [if_neg hcount, if_neg hcount]

end Written

/-- Where capitals begin with characters that have no case, so does the text. -/
theorem exists_mark {text front name : Text} (hfront : ∀ character ∈ front, Caseless character)
    (hcapitals : text.map Char.toUpper = front ++ name) :
    ∃ mark, text = front ++ mark ∧ mark.map Char.toUpper = name := by
  obtain ⟨start, mark, rfl, hstart, hmark⟩ := List.map_eq_append_iff.mp hcapitals
  refine ⟨mark, ?_, hmark⟩
  have hkept : start.map Char.toUpper = start := by
    refine map_toUpper_of_caseless fun character hmem ↦ Or.inr ?_
    exact hfront _ (hstart ▸ List.mem_map_of_mem hmem)
  rw [← hstart, hkept]

/-- Around a number that is read there are only blanks. -/
theorem exists_of_parseNumber_trim {front : Text} {count : Nat}
    (hnumber : parseNumber (trim front) = some count) :
    ∃ (lead : Text) (signed : Bool) (digits trail : Text),
      front = lead ++ (sign signed ++ digits ++ trail) ∧
      OnlyBlanks lead ∧ OnlyBlanks trail ∧ digits ≠ [] ∧
      ∀ digit ∈ digits, digit.isDigit = true := by
  obtain ⟨lead, trail, hlead, htrail, hfront⟩ := exists_trim front
  obtain ⟨signed, hsign⟩ := exists_sign_append (trim front)
  obtain ⟨hsome, hdigits⟩ := isDigit_of_parseDigits hnumber
  refine ⟨lead, signed, unsigned (trim front), trail, ?_, hlead, htrail, hsome, hdigits⟩
  rw [← hsign, ← List.append_assoc]
  exact hfront

/-- A text without blanks around it that has a number in front of its unit is a written size. -/
theorem exists_written {text : Text} {count : Nat} (hstart : StartsClean text)
    (hnumber : parseNumber (trim (splitUnit (uppercase text)).1) = some count) :
    ∃ size : Written, text = size.text := by
  obtain ⟨name, hcapitals, hname⟩ :=
    exists_of_splitUnit (Prod.eta (splitUnit (uppercase text))).symm
  obtain ⟨lead, signed, digits, trail, hfront, hlead, htrail, hsome, hdigits⟩ :=
    exists_of_parseNumber_trim hnumber
  have hcaseless : ∀ character ∈ (splitUnit (uppercase text)).1, Caseless character := by
    rw [hfront, List.forall_mem_append]
    exact ⟨fun character hmem ↦ Or.inr (Or.inl (hlead character hmem)),
      fun character hmem ↦ caseless_of_mem_number hdigits htrail hmem⟩
  have hinside : ∀ capital ∈ uppercase text, InSize capital := by
    rw [hcapitals, List.forall_mem_append]
    refine ⟨fun capital hmem ↦ Or.inl (hcaseless capital hmem), fun capital hmem ↦ Or.inr ?_⟩
    rcases hname with ⟨rfl, -⟩ | hunit
    · cases hmem
    · exact units_capitals _ hunit hmem
  obtain ⟨mark, htext, hmark⟩ :=
    exists_mark hcaseless ((uppercase_eq_map_of_inSize hinside).symm.trans hcapitals)
  obtain rfl : lead = [] := by
    rw [htext, hfront] at hstart
    cases lead with
    | nil => rfl
    | cons first others =>
      exact absurd (hlead first List.mem_cons_self) (by simp [hstart first rfl])
  refine ⟨⟨signed, digits, trail, mark, (splitUnit (uppercase text)).2, hsome, hdigits, htrail,
    marksUnit_iff.mpr ?_⟩, ?_⟩
  · rw [hmark]
    refine hname.imp (fun hbytes ↦ ⟨?_, hbytes.2⟩) id
    exact List.map_eq_nil_iff.mp (hmark.trans hbytes.1)
  · exact htext.trans (congrArg (· ++ mark) hfront)

theorem Written.one_le_unit (size : Written) : 1 ≤ size.unit := by
  rcases marksUnit_iff.mp size.marksUnit with ⟨-, hunit⟩ | hunit
  · exact hunit.ge
  · exact units_positive _ hunit

/-- A number that does not fit into 64 bits does not do so with a unit either. -/
theorem Written.count_lt (size : Written) (hbytes : size.count * size.unit < 2 ^ 64) :
    size.count < 2 ^ 64 :=
  lt_of_le_of_lt (Nat.le_mul_of_pos_right _ size.one_le_unit) hbytes

end Size

/-! ### Reading -/

section Reading

open Size

variable {text : Text}

/-- A text is a written size whose number has 64 bits, or its number is complained about. -/
theorem exists_written_or_invalid (text : Text) :
    (∃ size : Written, trim text = size.text ∧ size.count < 2 ^ 64) ∨
      ∃ number, parseSize text = .error (.invalidNumber number) := by
  cases hnumber : parseNumber (trim (splitUnit (uppercase (trim text))).1) with
  | none =>
    refine Or.inr ⟨(splitUnit (uppercase (trim text))).1, ?_⟩
    rw [parseSize]
    dsimp only
    rw [hnumber]
  | some count =>
    obtain ⟨size, hwritten⟩ := exists_written (startsClean_trim text) hnumber
    by_cases hcount : size.count < 2 ^ 64
    · exact Or.inl ⟨size, hwritten, hcount⟩
    · exact Or.inr ⟨_, (size.parseSize_eq hwritten).trans (if_neg hcount)⟩

/-- The number of bytes is the exact product. -/
theorem parseSize_eq_ok_iff {bytes : UInt64} :
    parseSize text = .ok bytes ↔
      ∃ size : Written, trim text = size.text ∧ size.count * size.unit < 2 ^ 64 ∧
        bytes.toNat = size.count * size.unit := by
  constructor
  · intro hread
    rcases exists_written_or_invalid text with ⟨size, hwritten, hcount⟩ | ⟨number, hinvalid⟩
    · rw [size.parseSize_eq hwritten, if_pos hcount] at hread
      split at hread
      next hbytes =>
        cases hread
        exact ⟨size, hwritten, hbytes, UInt64.toNat_ofNat_of_lt' hbytes⟩
      next => cases hread
    · rw [hinvalid] at hread
      cases hread
  · rintro ⟨size, hwritten, hbytes, hvalue⟩
    rw [size.parseSize_eq hwritten, if_pos (size.count_lt hbytes), if_pos hbytes, ← hvalue,
      UInt64.ofNat_toNat]

theorem parseSize_eq_tooLarge_iff {complaint : Text} :
    parseSize text = .error (.tooLarge complaint) ↔
      complaint = (trim text).map Char.toUpper ∧
        ∃ size : Written, trim text = size.text ∧ size.count < 2 ^ 64 ∧
          2 ^ 64 ≤ size.count * size.unit := by
  constructor
  · intro hread
    rcases exists_written_or_invalid text with ⟨size, hwritten, hcount⟩ | ⟨number, hinvalid⟩
    · rw [size.parseSize_eq hwritten, if_pos hcount] at hread
      split at hread
      next => cases hread
      next hbytes =>
        cases hread
        exact ⟨congrArg _ hwritten.symm, size, hwritten, hcount, Nat.le_of_not_lt hbytes⟩
    · rw [hinvalid] at hread
      cases hread
  · rintro ⟨rfl, size, hwritten, hcount, hbytes⟩
    rw [size.parseSize_eq hwritten, if_pos hcount, if_neg (Nat.not_lt.mpr hbytes), hwritten]

theorem parseSize_eq_invalidNumber_iff :
    (∃ number, parseSize text = .error (.invalidNumber number)) ↔
      ¬ ∃ size : Written, trim text = size.text ∧ size.count < 2 ^ 64 := by
  constructor
  · rintro ⟨number, hinvalid⟩ ⟨size, hwritten, hcount⟩
    rw [size.parseSize_eq hwritten, if_pos hcount] at hinvalid
    split at hinvalid <;> cases hinvalid
  · exact (exists_written_or_invalid text).resolve_left

/-- Around a written size there are blanks, and in it nothing beyond ASCII but blanks. -/
theorem Size.Written.isPlain_of_trim_eq (size : Written) (hwritten : trim text = size.text) :
    ∀ character ∈ text, IsPlain character := by
  obtain ⟨lead, trail, hlead, htrail, htext⟩ := exists_trim text
  rw [htext, hwritten, List.forall_mem_append, List.forall_mem_append]
  exact ⟨⟨fun character hmem ↦ Or.inr (hlead character hmem), fun _ ↦ size.isPlain_of_mem⟩,
    fun character hmem ↦ Or.inr (htrail character hmem)⟩

/-- What becomes of a text. It is a number of bytes when, without the blanks around it, it is a
written size whose bytes, by exact arithmetic, fit into 64 bits. It is too large when only its
number fits into them. Every other text is no number, one whose number does not fit, whatever its
unit, among them, and so is every text with a character beyond ASCII that is no white space. -/
theorem parseSize_outcomes (text : Text) :
    (∀ bytes : UInt64, parseSize text = .ok bytes ↔
      ∃ size : Written, trim text = size.text ∧ size.count * size.unit < 2 ^ 64 ∧
        bytes.toNat = size.count * size.unit) ∧
    (∀ complaint : Text, parseSize text = .error (.tooLarge complaint) ↔
      complaint = (trim text).map Char.toUpper ∧
        ∃ size : Written, trim text = size.text ∧ size.count < 2 ^ 64 ∧
          2 ^ 64 ≤ size.count * size.unit) ∧
    ((∃ number, parseSize text = .error (.invalidNumber number)) ↔
      ¬ ∃ size : Written, trim text = size.text ∧ size.count < 2 ^ 64) ∧
    (∀ size : Written, trim text = size.text → 2 ^ 64 ≤ size.count →
      ∃ number, parseSize text = .error (.invalidNumber number)) ∧
    (∀ character ∈ text, 128 ≤ character.toNat → isBlank character = false →
      ∃ number, parseSize text = .error (.invalidNumber number)) := by
  refine ⟨fun _ ↦ parseSize_eq_ok_iff, fun _ ↦ parseSize_eq_tooLarge_iff,
    parseSize_eq_invalidNumber_iff, ?_, ?_⟩
  · intro size hwritten hcount
    exact ⟨_, (size.parseSize_eq hwritten).trans (if_neg (Nat.not_lt.mpr hcount))⟩
  · intro character hmem hbeyond hblank
    rw [parseSize_eq_invalidNumber_iff]
    rintro ⟨size, hwritten, -⟩
    rcases size.isPlain_of_trim_eq hwritten character hmem with hascii | hspace
    · omega
    · rw [hblank] at hspace
      cases hspace

/-- The largest number of kilobytes, with everything that may stand in a size, the next one, and two
texts that are not read as numbers: one more than 64 bits, and one that gets longer in capitals. -/
theorem parseSize_outcomes_of_limits :
    parseSize " +0018014398509481983\u2003Kb\n".toList = .ok 18446744073709550592 ∧
    parseSize "18014398509481984k".toList = .error (.tooLarge "18014398509481984K".toList) ∧
    (∃ number, parseSize "18446744073709551616".toList = .error (.invalidNumber number)) ∧
    (∃ number, parseSize "5\u0149k".toList = .error (.invalidNumber number)) := by
  let largest : Written :=
    ⟨true, "0018014398509481983".toList, ['\u2003'], ['K', 'b'], 1024, by decide +kernel,
      List.all_eq_true.mp (by decide +kernel), by decide +kernel,
      .letterB (by decide) (Or.inr rfl)⟩
  let next : Written :=
    ⟨false, "18014398509481984".toList, [], ['k'], 1024, by decide +kernel,
      List.all_eq_true.mp (by decide +kernel), by decide +kernel, .letter (by decide)⟩
  let beyond : Written :=
    ⟨false, "18446744073709551616".toList, [], [], 1, by decide +kernel,
      List.all_eq_true.mp (by decide +kernel), by decide +kernel, .bytes⟩
  refine ⟨((parseSize_outcomes _).1 _).mpr ⟨largest, ?_⟩,
    ((parseSize_outcomes _).2.1 _).mpr ⟨by decide +kernel, next, ?_⟩,
    (parseSize_outcomes _).2.2.2.1 beyond ?_ ?_,
    (parseSize_outcomes _).2.2.2.2 '\u0149' ?_ ?_ ?_⟩
  all_goals decide +kernel

end Reading

end DeclaredParams
