import DeclaredParams.Text.Blank

/-!
# Quoted texts

`quoted` writes a text between double quotes, so that it can stand on one line of a log and its
ends can be seen. The quote and the backslash get a backslash in front; the tabulator, the two
line break characters and U+0000 have short names; every other control character, and every
blank other than U+0020, is written by its number. All else stands as it is here, also the marks
that combine with the letter before them and the characters without a shape, which the log writes by
their numbers too.
-/

set_option autoImplicit false
set_option relaxedAutoImplicit false

namespace DeclaredParams.Text

/-- A control character is one of U+0000 to U+001F and U+007F to U+009F. -/
def isControl (character : Char) : Bool :=
  character.toNat < 0x20 || (0x7F ≤ character.toNat && character.toNat < 0xA0)

/-- A character by its number, in lowercase hexadecimal without leading zeros. -/
def numbered (character : Char) : Text :=
  ['\\', 'u', '\x7b'] ++ Nat.toDigits 16 character.toNat ++ ['\x7d']

/-- The written form of one character between quotes. -/
def quotedCharacter (character : Char) : Text :=
  match character with
  | '"' => ['\\', '"']
  | '\\' => ['\\', '\\']
  | '\t' => ['\\', 't']
  | '\n' => ['\\', 'n']
  | '\r' => ['\\', 'r']
  | '\x00' => ['\\', '0']
  | ' ' => [' ']
  | _ => if isControl character || isBlank character then numbered character else [character]

/-- The text between double quotes, with the characters that could be mistaken escaped. -/
def quoted (text : Text) : Text :=
  '"' :: (text.flatMap quotedCharacter ++ ['"'])

end DeclaredParams.Text
