import DeclaredParams.Pattern.Table
import DeclaredParams.Shape.Basic

/-!
# The pattern of each shape

A shape is recognised by a pattern anchored at the start of a line, and the captured stretch is
the text of the parameter list. The patterns look at characters and know nothing of nesting or of
strings: a parameter list ends at the first closing parenthesis, an arrow function is anything
with an arrow in it, and a class is read up to its last constructor. The stretch that runs to the
keyword or to the arrow stays on one line, while blanks and parameter lists may hold line feeds.
-/

set_option autoImplicit false
set_option relaxedAutoImplicit false

namespace DeclaredParams.Shape

/-- Blanks, as few as possible. -/
def blanks : Pattern := [⟨.blank, .fewest, false⟩]

/-- A parameter list in parentheses: all that precedes the first closing one is captured. -/
def parenthesised : Pattern :=
  Pattern.word "(" ++ [⟨.except ')', .fewest, true⟩] ++ Pattern.word ")"

/-- The keyword and a blank, then the last constructor on the line with a parameter list. -/
def classPattern : Pattern :=
  Pattern.word "class" ++ [⟨.blank, .once, false⟩, ⟨.except '\n', .most, false⟩] ++
    Pattern.word "constructor" ++ blanks ++ parenthesised

/-- All that precedes the first arrow, without one parenthesis on either side and without the
blanks before the arrow. -/
def arrowPattern : Pattern :=
  [⟨.only '(', .optional, false⟩, ⟨.except '\n', .fewest, true⟩, ⟨.only ')', .optional, false⟩] ++
    blanks ++ Pattern.word "=>"

/-- The keyword, then the first parameter list on the line. -/
def regularPattern : Pattern :=
  Pattern.word "function" ++ [⟨.blank, .optional, false⟩, ⟨.except '\n', .fewest, false⟩] ++
    parenthesised

/-- The pattern by which a shape is recognised. -/
def pattern : Shape → Pattern
  | .classConstructor => classPattern
  | .arrowFunction => arrowPattern
  | .regularFunction => regularPattern

/-- The text of the parameter list that the shape finds at the start of a text, trimmed. -/
def capture (shape : Shape) (text : Text) : Option Text :=
  (shape.pattern.search text).map Text.trim

/-- The parameter list found is the trimmed capture of the preferred match. -/
theorem capture_eq (shape : Shape) (text : Text) :
    shape.capture text = (shape.pattern.capture text).map Text.trim := by
  rw [capture, Pattern.search_eq_capture]

end DeclaredParams.Shape
