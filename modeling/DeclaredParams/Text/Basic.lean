/-!
# Texts as lists of characters

Everything that is scanned or read back is a `Text`, a list of Unicode scalar values: callable
sources, parameter names, captured lists and rendered reports. `cut?` divides a text around the
first occurrence of a separator. `cut?_eq_some` says that nothing is lost by the division,
`length_of_cut?_eq_some` that what follows the separator is shorter than the whole, which is what
scanning loops terminate by.
-/

set_option autoImplicit false
set_option relaxedAutoImplicit false

namespace DeclaredParams

/-- A text is a list of Unicode scalar values. -/
abbrev Text := List Char

/-- A byte string, before anything is known about its encoding. -/
abbrev Bytes := List UInt8

namespace Text

/-- The text that a byte string encodes in UTF-8, if it encodes one. -/
def ofUtf8? (bytes : Bytes) : Option Text :=
  (String.fromUTF8? bytes.toByteArray).map String.toList

/-! ### Division around a separator -/

/-- Division around the first occurrence of a separator, where the characters already passed are
given in reverse order. -/
def cutFrom (separator : Text) (passed : Text) (text : Text) : Option (Text × Text) :=
  if separator.isPrefixOf text then
    some (passed.reverse, text.drop separator.length)
  else
    match text with
    | [] => none
    | character :: rest => cutFrom separator (character :: passed) rest

/-- What stands before and what stands after the first occurrence of a separator. -/
def cut? (separator text : Text) : Option (Text × Text) :=
  cutFrom separator [] text

/-- The two parts of a division and the separator between them make up the text. -/
theorem cutFrom_eq_some {separator passed text before after : Text}
    (hcut : cutFrom separator passed text = some (before, after)) :
    passed.reverse ++ text = before ++ separator ++ after := by
  fun_induction cutFrom separator passed text with
  | case1 passed text hseparator =>
    obtain ⟨rest, hrest⟩ := List.isPrefixOf_iff_prefix.1 hseparator
    simp only [Option.some.injEq, Prod.mk.injEq] at hcut
    rw [← hcut.1, ← hcut.2, ← hrest]
    simp
  | case2 => simp at hcut
  | case3 passed character rest _ ih => simpa using ih hcut

/-- A division loses nothing: the parts around the separator make up the text. -/
theorem cut?_eq_some {separator text before after : Text}
    (hcut : cut? separator text = some (before, after)) :
    text = before ++ separator ++ after := by
  simpa using cutFrom_eq_some hcut

/-- What follows the separator is shorter than the text by the separator and what precedes it. -/
theorem length_of_cut?_eq_some {separator text before after : Text}
    (hcut : cut? separator text = some (before, after)) :
    before.length + separator.length + after.length = text.length := by
  simp [cut?_eq_some hcut, Nat.add_assoc]

end Text

end DeclaredParams
