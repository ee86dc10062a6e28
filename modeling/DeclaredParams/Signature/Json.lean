import DeclaredParams.Json.Layout
import DeclaredParams.Signature.Basic

/-!
# Signatures as JSON

A signature is an object with the name of its shape, or null, and the list of its parameters;
each parameter is an object with its name and its two flags. `toCompactJson` and `toPrettyJson`
write the same tokens.
-/

set_option autoImplicit false
set_option relaxedAutoImplicit false

namespace DeclaredParams

open Json

/-- A name and the tokens of its value. -/
def Json.member (name : String) (value : List Token) : List Token :=
  .string name.toList :: .colon :: value

/-- The tokens of a parameter. -/
def Parameter.jsonTokens (parameter : Parameter) : List Token :=
  [.opening .object] ++
    member "name" [.string parameter.name] ++ [.comma] ++
    member "rest" [.bool parameter.isRest] ++ [.comma] ++
    member "has_default" [.bool parameter.hasDefault] ++
  [.closing .object]

/-- The token of the shape that recognised a callable. -/
def Shape.jsonToken : Option Shape → Token
  | some shape => .string shape.name.toList
  | none => .null

namespace Signature

/-- The tokens of a signature. -/
def jsonTokens (signature : Signature) : List Token :=
  [.opening .object] ++
    member "shape" [Shape.jsonToken signature.shape] ++ [.comma] ++
    member "parameters"
      ([.opening .array] ++
        [Token.comma].intercalate (signature.parameters.map Parameter.jsonTokens) ++
      [.closing .array]) ++
  [.closing .object]

/-- The signature as JSON on one line. -/
def toCompactJson (signature : Signature) : Text :=
  compact signature.jsonTokens

/-- The signature as JSON on indented lines. -/
def toPrettyJson (signature : Signature) : Text :=
  pretty signature.jsonTokens

end Signature

end DeclaredParams
