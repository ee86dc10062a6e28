import DeclaredParams.Text.Basic

/-!
# Line breaks

A source text is read as one line: `joinLines` removes the line feeds and the carriage returns
and puts nothing in their place. The other characters that may end a line, U+0085, U+2028 and
U+2029 among them, stay.
-/

set_option autoImplicit false
set_option relaxedAutoImplicit false

namespace DeclaredParams.Text

/-- A line break is a line feed or a carriage return. -/
def isLineBreak (character : Char) : Bool :=
  character == '\n' || character == '\r'

/-- The text without its line breaks. -/
def joinLines (text : Text) : Text :=
  text.filter fun character ↦ !isLineBreak character

end DeclaredParams.Text
