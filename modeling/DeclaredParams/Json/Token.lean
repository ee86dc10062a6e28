import DeclaredParams.Text.Basic

/-!
# JSON tokens

A JSON text is written as a sequence of tokens, and `Token.text` is the text of one token.
In a string the quote and the backslash are escaped, the control characters that have a short
name are written by it, and the other characters below U+0020 by their number. All other
characters stand for themselves.
-/

set_option autoImplicit false
set_option relaxedAutoImplicit false

namespace DeclaredParams.Json

/-- The two kinds of nested values. -/
inductive Bracket where
  /-- A list of named members. -/
  | object
  /-- A list of values. -/
  | array
  deriving DecidableEq, Repr

/-- The smallest parts of a JSON text. -/
inductive Token where
  /-- The start of a nested value. -/
  | opening (bracket : Bracket)
  /-- The end of a nested value. -/
  | closing (bracket : Bracket)
  /-- The sign between two members or values. -/
  | comma
  /-- The sign between a name and its value. -/
  | colon
  /-- The absent value. -/
  | null
  /-- A truth value. -/
  | bool (value : Bool)
  /-- A string, given by its characters. -/
  | string (characters : Text)
  deriving DecidableEq, Repr

/-- The written form of one character of a string. -/
def escapedCharacter (character : Char) : Text :=
  match character with
  | '"' => ['\\', '"']
  | '\\' => ['\\', '\\']
  | '\x08' => ['\\', 'b']
  | '\t' => ['\\', 't']
  | '\n' => ['\\', 'n']
  | '\x0c' => ['\\', 'f']
  | '\r' => ['\\', 'r']
  | _ =>
    if character.toNat < 0x20 then
      ['\\', 'u', '0', '0', Nat.digitChar (character.toNat / 16),
        Nat.digitChar (character.toNat % 16)]
    else [character]

/-- The text of a token. -/
def Token.text : Token → Text
  | .opening .object => ['\x7b']
  | .opening .array => ['[']
  | .closing .object => ['\x7d']
  | .closing .array => [']']
  | .comma => [',']
  | .colon => [':']
  | .null => ['n', 'u', 'l', 'l']
  | .bool true => ['t', 'r', 'u', 'e']
  | .bool false => ['f', 'a', 'l', 's', 'e']
  | .string characters => '"' :: (characters.flatMap escapedCharacter ++ ['"'])

end DeclaredParams.Json
