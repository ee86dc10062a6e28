import DeclaredParams.Parameter.Basic
import DeclaredParams.Shape.Basic

/-!
# Signatures

A `Signature` is what an inspection finds out about a callable: the shape that recognised it and
its parameters in order. A text that no shape recognises has the empty signature.
-/

set_option autoImplicit false
set_option relaxedAutoImplicit false

namespace DeclaredParams

/-- The shape and the parameters of a callable. -/
structure Signature where
  /-- The shape that recognised the callable, if one did. -/
  shape : Option Shape
  /-- The parameters in the order of their declaration. -/
  parameters : List Parameter
  deriving DecidableEq, Repr

/-- The signature of a text that no shape recognises. -/
def Signature.empty : Signature := ⟨none, []⟩

end DeclaredParams
