/-!
# The shapes of a callable

A callable is declared as a class with a constructor, as an arrow function or as a regular
function. `Shape.priority` is the order in which the shapes are tried on a source.
-/

set_option autoImplicit false
set_option relaxedAutoImplicit false

namespace DeclaredParams

/-- The way in which a callable is declared. -/
inductive Shape where
  /-- A class, whose parameters are those of its constructor. -/
  | classConstructor
  /-- An arrow function. -/
  | arrowFunction
  /-- A function declared by its keyword. -/
  | regularFunction
  deriving DecidableEq, Repr

namespace Shape

/-- All shapes, in the order in which they are tried. -/
def priority : List Shape :=
  [.classConstructor, .arrowFunction, .regularFunction]

/-- The name by which a shape is selected and reported. -/
def name : Shape → String
  | .classConstructor => "class"
  | .arrowFunction => "arrow"
  | .regularFunction => "regular"

/-- The shape with a given name. -/
def ofName? (name : String) : Option Shape :=
  priority.find? fun shape ↦ shape.name == name

end Shape

end DeclaredParams
