import DeclaredParams.Report.Plain

/-!
# Styled reports

A styled report is a sequence of events on a terminal: a change of style, a piece of text or a
return to the normal style. `events` sets names in bold, rest parameters in magenta, and the
default marker in yellow. The events are written with their styles, as escape sequences, by
`coloured`, and without them by `uncoloured`.
-/

set_option autoImplicit false
set_option relaxedAutoImplicit false

namespace DeclaredParams.Report

/-- The colours of a report. -/
inductive Colour where
  /-- The colour of rest parameters. -/
  | magenta
  /-- The colour of default markers. -/
  | yellow
  deriving DecidableEq, Repr

/-- A style of text on a terminal. -/
structure Style where
  /-- The colour of the letters, if it is not the normal one. -/
  colour : Option Colour
  /-- Whether the letters are bold. -/
  bold : Bool
  deriving DecidableEq, Repr

/-- What happens on a terminal. -/
inductive Event where
  /-- The following text has this style and no other attribute. -/
  | setStyle (style : Style)
  /-- A piece of text. -/
  | text (written : Text)
  /-- The following text has the normal style. -/
  | reset
  deriving DecidableEq, Repr

/-! ### The events of a report -/

/-- The events up to the name of a parameter. -/
def nameEvents (parameter : Parameter) : List Event :=
  if parameter.isRest then
    [.setStyle ⟨some .magenta, false⟩, .text Parameter.restMarker,
     .setStyle ⟨some .magenta, true⟩, .text parameter.name, .reset]
  else [.setStyle ⟨none, true⟩, .text parameter.name, .reset]

/-- The events that mark a default value. -/
def defaultEvents (parameter : Parameter) : List Event :=
  if parameter.hasDefault then
    [.setStyle ⟨some .yellow, false⟩, .text defaultMarker, .reset]
  else []

/-- The events of the line of one parameter. -/
def lineEvents (parameter : Parameter) : List Event :=
  nameEvents parameter ++ defaultEvents parameter ++ [.text ['\n']]

/-- The events of a report, line by line. -/
def events (parameters : List Parameter) : List Event :=
  parameters.flatMap lineEvents

/-! ### Writing -/

/-- An escape sequence with one number. -/
def sequence (number : Text) : Text :=
  ['\x1b', '['] ++ number ++ ['m']

/-- The escape sequence that ends all styles. -/
def resetSequence : Text := sequence ['0']

/-- The number that selects a colour for the letters. -/
def Colour.number : Colour → Text
  | .magenta => ['3', '5']
  | .yellow => ['3', '3']

/-- The escape sequences that set a style, from the normal one on. -/
def Style.sequences (style : Style) : Text :=
  resetSequence ++ (if style.bold then sequence ['1'] else []) ++
    (match style.colour with
      | some colour => sequence colour.number
      | none => [])

/-- An event on a terminal with styles. -/
def Event.coloured : Event → Text
  | .setStyle style => style.sequences
  | .text written => written
  | .reset => resetSequence

/-- An event on a terminal without styles. -/
def Event.uncoloured : Event → Text
  | .setStyle _ => []
  | .text written => written
  | .reset => []

/-- The styled report with or without its styles. -/
def styled (withColour : Bool) (parameters : List Parameter) : Text :=
  (events parameters).flatMap (if withColour then Event.coloured else Event.uncoloured)

end DeclaredParams.Report
