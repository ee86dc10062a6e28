import DeclaredParams.Text.Basic

/-!
# What is visible of a text

A text that is shown where no terminal interprets it loses its control characters and its escape
sequences; blanks, line breaks and all letters stay. `ControlState` follows the escape sequences
that terminals share: short ones, control sequences, device strings, commands to the system and
other strings. An escape character starts a new sequence wherever it stands, and two other
characters break off the one that is open. `visible` keeps the characters that are shown.
-/

set_option autoImplicit false
set_option relaxedAutoImplicit false

namespace DeclaredParams.Text

/-- The kind of escape sequence that is open. -/
inductive ControlState where
  /-- None. -/
  | ground
  /-- One that has only started. -/
  | escape
  /-- A short one that waits for its last character. -/
  | escapeIntermediate
  /-- A control sequence. -/
  | controlSequence
  /-- A device string before its first parameter. -/
  | deviceEntry
  /-- A device string within its parameters. -/
  | deviceParameter
  /-- A device string after its parameters. -/
  | deviceIntermediate
  /-- The content of a string that a terminator ends. -/
  | controlString
  /-- A command to the system, which a bell ends. -/
  | systemCommand
  deriving DecidableEq, Repr

/-- The character that starts an escape sequence. -/
def escapeCharacter : Char := '\x1b'

/-- The characters that break off an escape sequence. -/
def isCancel (character : Char) : Bool :=
  character == '\x18' || character == '\x1a'

/-- A character lies between two others, ends included. -/
def isBetween (first last character : Char) : Bool :=
  first ≤ character && character ≤ last

/-- The control characters that move on and are shown as they are. -/
def isLayout (character : Char) : Bool :=
  character == '\t' || character == '\n' || character == '\x0c' || character == '\r'

/-- A character that is shown where no escape sequence is open. -/
def isShownAtRest (character : Char) : Bool :=
  isLayout character || (' ' ≤ character && character != '\x7f')

/-- The character closes a string with its terminator, the byte 0x9C. -/
def isTerminator (character : Char) : Bool :=
  (String.singleton character).toUTF8.toList.contains 0x9C

namespace ControlState

/-- The state after one more character. -/
def after (state : ControlState) (character : Char) : ControlState :=
  if character == escapeCharacter then .escape
  else if isCancel character then .ground
  else
    match state with
    | .ground => .ground
    | .escape =>
      if isBetween ' ' '/' character then .escapeIntermediate
      else if character == '[' then .controlSequence
      else if character == ']' then .systemCommand
      else if character == 'P' then .deviceEntry
      else if character == 'X' || character == '^' || character == '_' then .controlString
      else if isBetween '0' '~' character then .ground
      else .escape
    | .escapeIntermediate => if isBetween '0' '~' character then .ground else .escapeIntermediate
    | .controlSequence => if isBetween '@' '~' character then .ground else .controlSequence
    | .deviceEntry =>
      if isBetween ' ' '/' character then .deviceIntermediate
      else if isBetween '0' '?' character then .deviceParameter
      else if isBetween '@' '~' character then .controlString
      else .deviceEntry
    | .deviceParameter =>
      if isBetween ' ' '/' character then .deviceIntermediate
      else if isBetween '<' '~' character then .controlString
      else .deviceParameter
    | .deviceIntermediate =>
      if isBetween '0' '~' character then .controlString else .deviceIntermediate
    | .controlString => if isTerminator character then .ground else .controlString
    | .systemCommand => if character == '\x07' then .ground else .systemCommand

/-- A character is shown although an escape sequence may be open. -/
def shows (state : ControlState) (character : Char) : Bool :=
  match state with
  | .ground => isShownAtRest character
  | .escape | .escapeIntermediate | .controlSequence => isLayout character
  | _ => false

end ControlState

/-- The position between two characters that are shown or not. -/
structure Screen where
  /-- The escape sequence that is open. -/
  state : ControlState
  /-- Whether the last character was shown. What follows is then shown as at rest, even if an
  escape sequence was left open. -/
  showing : Bool
  deriving DecidableEq, Repr

namespace Screen

/-- The position before the first character. -/
def start : Screen := ⟨.ground, false⟩

/-- The next character is shown. -/
def shows (screen : Screen) (character : Char) : Bool :=
  if screen.showing then isShownAtRest character else screen.state.shows character

/-- The position after one more character. A character beyond ASCII in shown text closes what was
left open, the others that are shown leave it as it is. -/
def after (screen : Screen) (character : Char) : Screen :=
  if screen.showing && isShownAtRest character then
    ⟨if '\x7f' < character then .ground else screen.state, true⟩
  else ⟨screen.state.after character, screen.shows character⟩

end Screen

/-- The characters that are shown, behind those shown before in reverse order. -/
def visibleFrom (screen : Screen) (shown : Text) : Text → Text
  | [] => shown.reverse
  | character :: rest =>
    visibleFrom (screen.after character)
      (if screen.shows character then character :: shown else shown) rest

/-- The characters of a text that are shown. -/
def visible (text : Text) : Text :=
  visibleFrom .start [] text

end DeclaredParams.Text
