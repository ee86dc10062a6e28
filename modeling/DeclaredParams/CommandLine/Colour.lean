import DeclaredParams.CommandLine.Arguments

/-!
# Colour

Whether a report is coloured is decided twice. `wantsColour` follows the arguments and, where they
leave it open, the environment and the kind of standard output. `colourAllowed` asks the environment
again, whatever the arguments say, and `coloured` needs both.
-/

set_option autoImplicit false
set_option relaxedAutoImplicit false

namespace DeclaredParams.CommandLine

/-- The values of the environment variables that are set. -/
abbrev Environment := String → Option String

/-- A terminal that knows no escape sequences calls itself so. -/
def dumbTerminal : String := "dumb"

/-- The report should be coloured. The mode decides, and where it leaves the question open the
variables do, each before the next one is looked at, and last whether standard output is a
terminal. -/
def wantsColour (mode : ColourMode) (environment : Environment) (toTerminal : Bool) : Bool :=
  match mode with
  | .always => true
  | .never => false
  | .auto =>
    if (environment "NO_COLOR").isSome then false
    else if (environment "FORCE_COLOR").isSome then true
    else if environment "TERM" = some dumbTerminal then false
    else toTerminal

/-- The environment names a terminal with styles and does not object to colours. -/
def colourAllowed (environment : Environment) : Bool :=
  match environment "TERM" with
  | none => false
  | some terminal => terminal != dumbTerminal && (environment "NO_COLOR").isNone

/-- The report is coloured. -/
def coloured (mode : ColourMode) (environment : Environment) (toTerminal : Bool) : Bool :=
  wantsColour mode environment toTerminal && colourAllowed environment

end DeclaredParams.CommandLine
