import DeclaredParams.Parameter.Basic

/-!
# Plain reports

A plain report has one line for each parameter, in order. A rest parameter has three dots in
front of its name, and a parameter with a default value says so after it.
-/

set_option autoImplicit false
set_option relaxedAutoImplicit false

namespace DeclaredParams.Report

/-- What follows the name of a parameter with a default value. -/
def defaultMarker : Text := " (default)".toList

/-- The line of one parameter, with its line feed. -/
def plainLine (parameter : Parameter) : Text :=
  (if parameter.isRest then Parameter.restMarker else []) ++ parameter.name ++
    (if parameter.hasDefault then defaultMarker else []) ++ ['\n']

/-- One line for each parameter. -/
def plain (parameters : List Parameter) : Text :=
  parameters.flatMap plainLine

end DeclaredParams.Report
