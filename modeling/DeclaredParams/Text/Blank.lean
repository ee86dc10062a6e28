import DeclaredParams.Text.Basic

/-!
# White space and trimming

`isBlank` is the Unicode property `White_Space`: 25 scalar values in ten ranges. It holds of the
no-break spaces and of the line and paragraph separators, and it does not hold of U+200B, U+FEFF,
U+180E or the information separators U+001C to U+001F. `trimStart`, `trimEnd` and `trim` remove
blanks from the ends of a text.
-/

set_option autoImplicit false
set_option relaxedAutoImplicit false

namespace DeclaredParams.Text

/-- The ranges of scalar values with the property `White_Space`, ends included. -/
def blankRanges : List (Nat × Nat) :=
  [(0x0009, 0x000D), (0x0020, 0x0020), (0x0085, 0x0085), (0x00A0, 0x00A0), (0x1680, 0x1680),
   (0x2000, 0x200A), (0x2028, 0x2029), (0x202F, 0x202F), (0x205F, 0x205F), (0x3000, 0x3000)]

/-- A character is blank when it has the property `White_Space`. -/
def isBlank (character : Char) : Bool :=
  blankRanges.any fun range ↦ range.1 ≤ character.toNat && character.toNat ≤ range.2

/-- The text without its leading blanks. -/
def trimStart (text : Text) : Text :=
  text.dropWhile isBlank

/-- The text without its trailing blanks. -/
def trimEnd (text : Text) : Text :=
  (text.reverse.dropWhile isBlank).reverse

/-- The text without its leading and trailing blanks. -/
def trim (text : Text) : Text :=
  trimEnd (trimStart text)

end DeclaredParams.Text
