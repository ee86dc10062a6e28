import DeclaredParams.Text.Blank
import DeclaredParams.Text.Uppercase

/-!
# Written sizes

A size is a decimal number with an optional unit, `parseSize`: the unit is K, M or G, alone or
followed by B, in either case, and each is 1024 times the one before. Blanks may stand around the
number and around the whole. The number has 64 bits, and so has the product with the unit;
`SizeError` tells a number that cannot be read from a product that is too large.
-/

set_option autoImplicit false
set_option relaxedAutoImplicit false

namespace DeclaredParams

/-- The reason why a text is no size. -/
inductive SizeError where
  /-- What stands before the unit is no number of 64 bits. -/
  | invalidNumber (number : Text)
  /-- The number of bytes does not fit into 64 bits. -/
  | tooLarge (size : Text)
  deriving DecidableEq, Repr

/-- The wording of a size error. -/
def SizeError.message : SizeError → String
  | .invalidNumber number => "invalid number: " ++ String.ofList number
  | .tooLarge size => "size too large: " ++ String.ofList size

namespace Size

/-- The units and the number of bytes in each, in the order in which they are tried. -/
def units : List (Text × Nat) :=
  [(['G', 'B'], 1024 * 1024 * 1024), (['G'], 1024 * 1024 * 1024), (['M', 'B'], 1024 * 1024),
   (['M'], 1024 * 1024), (['K', 'B'], 1024), (['K'], 1024)]

/-- What stands before the unit, and the number of bytes in the unit. A text without a unit
counts bytes. -/
def splitUnit (text : Text) : Text × Nat :=
  match units.find? fun unit ↦ unit.1.isSuffixOf text with
  | some unit => (text.take (text.length - unit.1.length), unit.2)
  | none => (text, 1)

/-- The value of a sequence of decimal digits. -/
def digitsValue (digits : Text) : Nat :=
  digits.foldl (fun value digit ↦ 10 * value + (digit.toNat - '0'.toNat)) 0

/-- The number of 64 bits that a text writes: decimal digits, at least one, after an optional
plus sign. -/
def parseNumber (text : Text) : Option Nat :=
  let digits :=
    match text with
    | '+' :: digits => digits
    | digits => digits
  if !digits.isEmpty && digits.all Char.isDigit && digitsValue digits < UInt64.size then
    some (digitsValue digits)
  else none

end Size

/-- The number of bytes that a text writes. -/
def parseSize (text : Text) : Except SizeError UInt64 :=
  let size := Text.uppercase (Text.trim text)
  let (number, unit) := Size.splitUnit size
  match Size.parseNumber (Text.trim number) with
  | none => .error (.invalidNumber number)
  | some count =>
    if count * unit < UInt64.size then .ok (UInt64.ofNat (count * unit))
    else .error (.tooLarge size)

end DeclaredParams
