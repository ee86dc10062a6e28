import DeclaredParams.Parameter.List
import DeclaredParams.Shape.Capture
import DeclaredParams.Shape.Selection
import DeclaredParams.Signature.Basic
import DeclaredParams.Text.LineBreak

/-!
# Inspection of a callable

`recognise` reads a source as one line without leading blanks and asks the enabled shapes for a
parameter list in the order of priority. The first shape with an answer decides, even when its
list is empty. `inspect` turns the answer into a signature; `extract` and `matchedShape` are its
two halves.
-/

set_option autoImplicit false
set_option relaxedAutoImplicit false

namespace DeclaredParams

/-- A shape that recognised a source and the text of its parameter list. -/
structure Recognition where
  /-- The first enabled shape that found a parameter list. -/
  shape : Shape
  /-- The text of the parameter list, trimmed. -/
  raw : Text
  deriving DecidableEq, Repr

/-- The answer of the first enabled shape that recognises a line. -/
def recogniseLine (shapes : ShapeSet) (line : Text) : Option Recognition :=
  shapes.enabledShapes.findSome? fun shape ↦ (shape.capture line).map fun raw ↦ ⟨shape, raw⟩

/-- The answer of the first enabled shape that recognises a source. -/
def recognise (shapes : ShapeSet) (source : Text) : Option Recognition :=
  recogniseLine shapes (source.joinLines.trimStart)

/-- The signature that a recognition stands for. -/
def Signature.ofRecognition? : Option Recognition → Signature
  | some recognition => ⟨some recognition.shape, parseParameterList recognition.raw⟩
  | none => .empty

/-- The signature of the callable in a source, read with the enabled shapes. -/
def inspect (shapes : ShapeSet) (source : Text) : Signature :=
  .ofRecognition? (recognise shapes source)

/-- The parameters of the callable in a source. -/
def extract (shapes : ShapeSet) (source : Text) : List Parameter :=
  (inspect shapes source).parameters

/-- The shape of the callable in a source, found without reading its parameters. -/
def matchedShape (shapes : ShapeSet) (source : Text) : Option Shape :=
  (recognise shapes source).map Recognition.shape

end DeclaredParams
