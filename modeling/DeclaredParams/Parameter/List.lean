import DeclaredParams.Parameter.Rule
import DeclaredParams.Text.Comment

/-!
# Parameter lists

The text of a parameter list loses its comments, is divided at every comma, and each piece is
classified on its own. Commas inside brackets or strings divide the list as well. Blank pieces
declare nothing, so trailing and doubled commas do no harm.
-/

set_option autoImplicit false
set_option relaxedAutoImplicit false

namespace DeclaredParams

/-- The classified pieces of a parameter list, in order. -/
def classifyList (raw : Text) : List Classification :=
  (raw.stripComments.splitOn ',').filterMap Classification.ofText?

/-- The parameters that the text of a parameter list declares, in order. -/
def parseParameterList (raw : Text) : List Parameter :=
  (classifyList raw).map Classification.parameter

/-- A parameter list is read piece by piece. -/
theorem parseParameterList_eq (raw : Text) :
    parseParameterList raw = (raw.stripComments.splitOn ',').filterMap Parameter.classify := by
  rw [parseParameterList, classifyList, List.map_filterMap]
  rfl

end DeclaredParams
