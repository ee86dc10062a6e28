import DeclaredParams.Text.Basic

/-!
# Declared parameters

A `Parameter` is what a declaration says about one argument of a callable: its name, whether it
collects the remaining arguments, and whether it has a default value. The value itself is not
kept.
-/

set_option autoImplicit false
set_option relaxedAutoImplicit false

namespace DeclaredParams

/-- One parameter of a callable. -/
structure Parameter where
  /-- The name, as it stands in the declaration. -/
  name : Text
  /-- Whether the parameter collects the remaining arguments. -/
  isRest : Bool
  /-- Whether the parameter has a default value. -/
  hasDefault : Bool
  deriving DecidableEq, Repr

namespace Parameter

/-- A parameter with a name alone. -/
def plain (name : Text) : Parameter := ⟨name, false, false⟩

/-- A parameter that collects the remaining arguments. -/
def rest (name : Text) : Parameter := ⟨name, true, false⟩

/-- A parameter with a default value. -/
def defaulted (name : Text) : Parameter := ⟨name, false, true⟩

/-- The three dots that stand before the name of a rest parameter. -/
def restMarker : Text := ['.', '.', '.']

end Parameter

end DeclaredParams
