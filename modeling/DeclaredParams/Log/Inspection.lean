import DeclaredParams.Log.Basic
import DeclaredParams.Signature.Inspect
import DeclaredParams.Text.Quoted

/-!
# What is logged

An inspection records the shape that matched and the text of the parameter list, then each token
with the rule that classified it; where no shape matched it records the selection of shapes.
Around it stand the number of bytes read from a file and the result of the inspection.
-/

set_option autoImplicit false
set_option relaxedAutoImplicit false

namespace DeclaredParams

/-- A truth value in a log. -/
def logFlag (value : Bool) : String :=
  if value then "true" else "false"

/-- A selection of shapes in a log. -/
def ShapeSet.logText (shapes : ShapeSet) : String :=
  "ShapeConfig \x7b arrow: " ++ logFlag shapes.arrowFunction ++ ", class: " ++
    logFlag shapes.classConstructor ++ ", regular: " ++ logFlag shapes.regularFunction ++ " \x7d"

namespace LogRecord

/-- The record of the search for a shape. -/
def ofSearch (shapes : ShapeSet) (recognition : Option Recognition) : LogRecord :=
  match recognition with
  | some found =>
    ⟨.debug, "argsof::extractor",
      "matched " ++ found.shape.name ++ " shape, raw parameters " ++
        String.ofList (Text.quoted found.raw)⟩
  | none => ⟨.debug, "argsof::extractor", "no enabled shape matched " ++ shapes.logText⟩

/-- The record of one classified token. -/
def ofClassification (classification : Classification) : LogRecord :=
  ⟨.trace, "argsof::param",
    "token " ++ String.ofList (Text.quoted classification.token) ++ " classified as " ++
      classification.rule.name⟩

/-- The records of an inspection, in order. -/
def ofInspection (shapes : ShapeSet) (source : Text) : List LogRecord :=
  let recognition := recognise shapes source
  let classified :=
    match recognition with
    | some found => classifyList found.raw
    | none => []
  ofSearch shapes recognition :: classified.map ofClassification

/-- The record of a file that was read. -/
def ofFileRead (path : String) (content : Bytes) : LogRecord :=
  ⟨.debug, "argsof::file_utils",
    "read " ++ toString content.length ++ " bytes from " ++ path⟩

/-- The record of the result. -/
def ofResult (shapes : ShapeSet) (result : Option Shape) : LogRecord :=
  match result with
  | some shape => ⟨.info, "argsof", "recognised " ++ shape.name ++ " callable"⟩
  | none =>
    ⟨.info, "argsof",
      "no callable recognised with shapes [" ++
        ", ".intercalate (shapes.enabledShapes.map Shape.name) ++ "]"⟩

end LogRecord

end DeclaredParams
