import DeclaredParams.Pattern.Basic

/-!
# Capture in one pass

Trying the matches of a pattern one after another reads parts of the text again and again.
`Pattern.search` reads each character once, from the last to the first, and keeps the captures
of every tail of the pattern on the text read so far: the row of a shorter text determines the row
of the text with one more character in front. `row_eq_captures` says that every entry is the
capture it stands for, and `search_eq_capture` that the leading entry is the capture asked for.
-/

set_option autoImplicit false
set_option relaxedAutoImplicit false

namespace DeclaredParams.Pattern

/-- The captures of the pattern and of each of its tails on one text, longest tail first. -/
abbrev Row := List (Option Text)

/-- The entry of a row for the longest tail in it. -/
def leading (row : Row) : Option Text :=
  row.headD none

/-- The row of the empty text. -/
def emptyRow : Pattern → Row
  | [] => [some []]
  | piece :: pieces =>
    (match piece.quantifier with
      | .once => none
      | .optional | .fewest | .most => leading (emptyRow pieces)) :: emptyRow pieces

/-- The row of a text with one more character in front. -/
def extendRow (character : Char) : Pattern → Row → Row
  | [], _ => [some []]
  | piece :: pieces, row =>
    let later := extendRow character pieces row.tail
    let reading := fun (rest : Option Text) ↦
      if piece.reads.holds character then rest.map (piece.collect character) else none
    (match piece.quantifier with
      | .once => reading (leading row.tail)
      | .optional => (reading (leading row.tail)).or (leading later)
      | .fewest => (leading later).or (reading (leading row))
      | .most => (reading (leading row)).or (leading later)) :: later

/-- The row of a text, built from its last character to its first. -/
def row (pattern : Pattern) (text : Text) : Row :=
  text.foldr (fun character previous ↦ extendRow character pattern previous) (emptyRow pattern)

/-- The stretch captured by the preferred match, found by reading each character once. -/
def search (pattern : Pattern) (text : Text) : Option Text :=
  leading (row pattern text)

/-- The captures of the pattern and of each of its tails, one by one. -/
def captures : Pattern → Text → Row
  | [], _ => [some []]
  | piece :: pieces, text => capture (piece :: pieces) text :: captures pieces text

/-- The leading one of the captures is that of the whole pattern. -/
theorem leading_captures (pattern : Pattern) (text : Text) :
    leading (captures pattern text) = capture pattern text := by
  cases pattern <;> rfl

/-- The row of the empty text holds the captures on it. -/
theorem emptyRow_eq_captures (pattern : Pattern) : emptyRow pattern = captures pattern [] := by
  induction pattern with
  | nil => rfl
  | cons piece pieces ih =>
    rw [emptyRow, captures, ih, leading_captures, capture, Piece.before]
    cases hquantifier : piece.quantifier <;>
      simp [Piece.one, Piece.few, Piece.many]

/-- One more character in front turns the captures on a text into those on the longer text. -/
theorem extendRow_captures (character : Char) (pattern : Pattern) (text : Text) :
    extendRow character pattern (captures pattern text) = captures pattern (character :: text) := by
  induction pattern with
  | nil => rfl
  | cons piece pieces ih =>
    have hwhole :
        leading (captures (piece :: pieces) text) = piece.before (capture pieces) text := rfl
    rw [extendRow]
    simp only [hwhole]
    rw [captures, List.tail_cons, ih, captures, leading_captures, leading_captures, capture]
    congr 1
    unfold Piece.before
    cases hquantifier : piece.quantifier <;>
      simp [Piece.one, Piece.few, Piece.many]

/-- Every entry of a row is the capture that it stands for. -/
theorem row_eq_captures (pattern : Pattern) (text : Text) :
    row pattern text = captures pattern text := by
  induction text with
  | nil => exact emptyRow_eq_captures pattern
  | cons character text ih =>
    rw [← extendRow_captures, ← ih]
    rfl

/-- The one-pass search finds the capture of the preferred match. -/
theorem search_eq_capture (pattern : Pattern) (text : Text) :
    search pattern text = capture pattern text := by
  rw [search, row_eq_captures, leading_captures]

end DeclaredParams.Pattern
