import DeclaredParams.Text.Blank

/-!
# Anchored patterns with one captured stretch

A `Pattern` is a sequence of pieces. Each `Piece` reads characters of one class, as many times as
its quantifier allows, and some pieces are kept: what they read is the captured stretch.
`Pattern.capture` gives a pattern its meaning. A match starts at the first character of the text
and may leave the end of the text unread; where several matches exist, the first one in the order
of preference decides, and that order is fixed by the pieces from left to right. An optional
piece prefers to read, `fewest` prefers to stop as soon as the later pieces match, and `most`
prefers to go on for as long as they still match afterwards.
-/

set_option autoImplicit false
set_option relaxedAutoImplicit false

namespace DeclaredParams

/-- A set of characters that one piece of a pattern can read. -/
inductive CharClass where
  /-- One character alone. -/
  | only (character : Char)
  /-- Every character but one. -/
  | except (character : Char)
  /-- The blanks. -/
  | blank
  deriving DecidableEq, Repr

/-- A character belongs to the class. -/
def CharClass.holds : CharClass → Char → Bool
  | .only member, character => character == member
  | .except absent, character => character != absent
  | .blank, character => Text.isBlank character

/-- How often a piece reads a character, and which number of times it prefers. -/
inductive Quantifier where
  /-- Exactly once. -/
  | once
  /-- Once or not at all, preferably once. -/
  | optional
  /-- Any number of times, preferably few. -/
  | fewest
  /-- Any number of times, preferably many. -/
  | most
  deriving DecidableEq, Repr

/-- One step of a pattern. -/
structure Piece where
  /-- The characters that the piece reads. -/
  reads : CharClass
  /-- How often it reads one. -/
  quantifier : Quantifier
  /-- Whether what it reads belongs to the captured stretch. -/
  kept : Bool
  deriving DecidableEq, Repr

/-- A sequence of pieces, read from the start of a text. -/
abbrev Pattern := List Piece

namespace Piece

/-- The capture after the piece has read one more character in front of it. -/
def collect (piece : Piece) (character : Char) (captured : Text) : Text :=
  if piece.kept then character :: captured else captured

/-- One character of the class, then whatever follows. -/
def one (piece : Piece) (following : Text → Option Text) : Text → Option Text
  | [] => none
  | character :: rest =>
    if piece.reads.holds character then (following rest).map (piece.collect character) else none

/-- As few characters of the class as let the following pieces match. -/
def few (piece : Piece) (following : Text → Option Text) : Text → Option Text
  | [] => following []
  | character :: rest =>
    (following (character :: rest)).or
      (if piece.reads.holds character then
        (few piece following rest).map (piece.collect character)
      else none)

/-- As many characters of the class as let the following pieces match. -/
def many (piece : Piece) (following : Text → Option Text) : Text → Option Text
  | [] => following []
  | character :: rest =>
    (if piece.reads.holds character then
      (many piece following rest).map (piece.collect character)
    else none).or
      (following (character :: rest))

/-- What is captured by a piece and the pieces that follow it. -/
def before (piece : Piece) (following : Text → Option Text) (text : Text) : Option Text :=
  match piece.quantifier with
  | .once => piece.one following text
  | .optional => (piece.one following text).or (following text)
  | .fewest => piece.few following text
  | .most => piece.many following text

end Piece

namespace Pattern

/-- The pieces that read a word letter by letter, outside the captured stretch. -/
def word (letters : String) : Pattern :=
  letters.toList.map fun letter ↦ ⟨.only letter, .once, false⟩

/-- The stretch captured by the preferred match of the pattern at the start of the text. -/
def capture : Pattern → Text → Option Text
  | [], _ => some []
  | piece :: pieces, text => piece.before (capture pieces) text

end Pattern

end DeclaredParams
