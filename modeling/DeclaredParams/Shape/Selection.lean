import DeclaredParams.Shape.Basic

/-!
# Selections of shapes

A `ShapeSet` says which shapes an inspection may recognise. The empty set recognises nothing;
`all` is what an inspection uses unless told otherwise. `enabledShapes` lists the members in the
order of priority.
-/

set_option autoImplicit false
set_option relaxedAutoImplicit false

namespace DeclaredParams

/-- A set of shapes. -/
structure ShapeSet where
  /-- Whether arrow functions belong to the set. -/
  arrowFunction : Bool := false
  /-- Whether class constructors belong to the set. -/
  classConstructor : Bool := false
  /-- Whether regular functions belong to the set. -/
  regularFunction : Bool := false
  deriving DecidableEq, Repr

namespace ShapeSet

/-- The set without members. -/
def empty : ShapeSet := ⟨false, false, false⟩

/-- The set of all shapes. -/
def all : ShapeSet := ⟨true, true, true⟩

/-- The set with one more member. -/
def insert (shapes : ShapeSet) : Shape → ShapeSet
  | .classConstructor => { shapes with classConstructor := true }
  | .arrowFunction => { shapes with arrowFunction := true }
  | .regularFunction => { shapes with regularFunction := true }

/-- The set with one member. -/
def only (shape : Shape) : ShapeSet :=
  empty.insert shape

/-- A shape belongs to the set. -/
def isEnabled (shapes : ShapeSet) : Shape → Bool
  | .classConstructor => shapes.classConstructor
  | .arrowFunction => shapes.arrowFunction
  | .regularFunction => shapes.regularFunction

/-- The members in the order of priority. -/
def enabledShapes (shapes : ShapeSet) : List Shape :=
  Shape.priority.filter shapes.isEnabled

/-- The set has a member. -/
def anyEnabled (shapes : ShapeSet) : Bool :=
  shapes.arrowFunction || shapes.classConstructor || shapes.regularFunction

/-- A set that was chosen explicitly, or all shapes where none was. -/
def ofChoice (choice : Option ShapeSet) : ShapeSet :=
  choice.getD all

end ShapeSet

end DeclaredParams
