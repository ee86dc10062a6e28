import DeclaredParams.Proofs.Json.Lexeme
import DeclaredParams.Proofs.Json.Value
import DeclaredParams.Signature.Json

/-!
# Signatures read back from JSON

`Signature.ofJson?` reads a signature from a JSON text, by the names of its members. Both layouts
are read back (`ofJson?_toJson`), so a JSON report loses nothing and different signatures have
different reports. The tokens of one parameter make one value (`foldlM_parameter`), those of a list
of parameters a list of values (`foldlM_parameters`), and from the values the parameters are
recovered (`ofValue?_toValue`).
-/

set_option autoImplicit false
set_option relaxedAutoImplicit false

namespace DeclaredParams

open Json

/-! ### Reading a signature -/

/-- The parameter that a value describes. -/
def Parameter.ofValue? (value : Value) : Option Parameter := do
  let name ← (← value.member? "name").characters?
  let isRest ← (← value.member? "rest").bool?
  let hasDefault ← (← value.member? "has_default").bool?
  return ⟨name, isRest, hasDefault⟩

/-- The shape that a value names, or the absence of a shape. -/
def Shape.ofValue? : Value → Option (Option Shape)
  | .null => some none
  | .string characters => (Shape.ofName? (String.ofList characters)).map some
  | _ => none

namespace Signature

/-- The signature that a value describes. -/
def ofValue? (value : Value) : Option Signature := do
  let shape ← Shape.ofValue? (← value.member? "shape")
  let parameters ← (← (← value.member? "parameters").items?).mapM Parameter.ofValue?
  return ⟨shape, parameters⟩

/-- The signature that a JSON text describes. -/
def ofJson? (text : Text) : Option Signature := do
  ofValue? (← readValue (← readTokens text))

end Signature

/-! ### The values of a signature -/

/-- The value that describes a parameter. -/
def Parameter.toValue (parameter : Parameter) : Value :=
  .object [("name".toList, .string parameter.name), ("rest".toList, .bool parameter.isRest),
    ("has_default".toList, .bool parameter.hasDefault)]

/-- The value that describes a shape or its absence. -/
def Shape.toValue : Option Shape → Value
  | some shape => .string shape.name.toList
  | none => .null

/-- The value that describes a signature. -/
def Signature.toValue (signature : Signature) : Value :=
  .object [("shape".toList, Shape.toValue signature.shape),
    ("parameters".toList, .array (signature.parameters.map Parameter.toValue))]

/-! ### From tokens to values -/

/-- The tokens of a parameter make one value. -/
theorem foldlM_parameter (parameter : Parameter) (items : List Value) (frames : List Frame) :
    parameter.jsonTokens.foldlM Position.step (.beforeValue (.array items :: frames)) =
      some (.afterItem (parameter.toValue :: items) frames) :=
  rfl

/-- The tokens of the first parameter start the list of values. -/
theorem foldlM_firstParameter (parameter : Parameter) (frames : List Frame) :
    parameter.jsonTokens.foldlM Position.step (.beforeFirstItem frames) =
      some (.afterItem [parameter.toValue] frames) :=
  rfl

/-- Further parameters, each behind a comma, make further values. -/
theorem foldlM_parameters (parameters : List Parameter) (items : List Value)
    (frames : List Frame) :
    (parameters.flatMap fun parameter ↦ .comma :: parameter.jsonTokens).foldlM Position.step
        (.afterItem items frames) =
      some (.afterItem ((parameters.map Parameter.toValue).reverse ++ items) frames) := by
  induction parameters generalizing items with
  | nil => rfl
  | cons parameter others ih =>
    have hcomma : Position.step (.afterItem items frames) .comma =
        some (.beforeValue (.array items :: frames)) := rfl
    rw [List.flatMap_cons, List.foldlM_append, List.foldlM_cons, hcomma, Option.bind_eq_bind,
      Option.bind_some, foldlM_parameter, Option.bind_some, ih]
    simp

/-- Lists with a separator between them. -/
theorem intercalate_cons_eq_flatMap (separator : Token) (first : List Token)
    (others : List (List Token)) :
    [separator].intercalate (first :: others) =
      first ++ others.flatMap fun other ↦ separator :: other := by
  induction others generalizing first with
  | nil => simp
  | cons next others ih => rw [List.intercalate_cons_cons, ih]; simp

/-- The tokens of a list of parameters make an array. -/
theorem foldlM_parameterList (parameters : List Parameter) (frames : List Frame) :
    (.opening .array :: ([Token.comma].intercalate (parameters.map Parameter.jsonTokens) ++
        [.closing .array])).foldlM Position.step (.beforeValue frames) =
      some (.afterValue (.array (parameters.map Parameter.toValue)) frames) := by
  have hopening : Position.step (.beforeValue frames) (.opening .array) =
      some (.beforeFirstItem frames) := rfl
  rw [List.foldlM_cons, hopening, Option.bind_eq_bind, Option.bind_some]
  cases parameters with
  | nil => rfl
  | cons parameter others =>
    rw [List.map_cons, intercalate_cons_eq_flatMap, List.flatMap_map, List.append_assoc,
      List.foldlM_append, foldlM_firstParameter, Option.bind_eq_bind, Option.bind_some,
      List.foldlM_append, foldlM_parameters, Option.bind_eq_bind, Option.bind_some]
    simp [Position.step]

/-- The tokens of a signature write its value. -/
theorem readValue_jsonTokens (signature : Signature) :
    readValue signature.jsonTokens = some signature.toValue := by
  obtain ⟨shape, parameters⟩ := signature
  have hhead : [.opening .object, .string "shape".toList, .colon, Shape.jsonToken shape, .comma,
      .string "parameters".toList, .colon].foldlM Position.step (.beforeValue []) =
        some (.beforeValue [.object [("shape".toList, Shape.toValue shape)] "parameters".toList]) := by
    cases shape <;> rfl
  have htokens : (Signature.mk shape parameters).jsonTokens =
      [.opening .object, .string "shape".toList, .colon, Shape.jsonToken shape, .comma,
        .string "parameters".toList, .colon] ++
      ((.opening .array :: ([Token.comma].intercalate (parameters.map Parameter.jsonTokens) ++
        [.closing .array])) ++ [.closing .object]) := by
    simp [Signature.jsonTokens, member]
  rw [readValue, htokens, List.foldlM_append, hhead, Option.bind_eq_bind, Option.bind_some,
    List.foldlM_append, foldlM_parameterList]
  rfl

/-! ### From values to signatures -/

theorem Parameter.ofValue?_toValue (parameter : Parameter) :
    Parameter.ofValue? parameter.toValue = some parameter := rfl

theorem Shape.ofValue?_toValue (shape : Option Shape) :
    Shape.ofValue? (Shape.toValue shape) = some shape := by
  cases shape with
  | none => rfl
  | some shape => cases shape <;> rfl

theorem mapM_ofValue?_toValue (parameters : List Parameter) :
    (parameters.map Parameter.toValue).mapM Parameter.ofValue? = some parameters := by
  induction parameters with
  | nil => rfl
  | cons parameter others ih =>
    rw [List.map_cons, List.mapM_cons, Parameter.ofValue?_toValue, ih]
    rfl

theorem Signature.ofValue?_toValue (signature : Signature) :
    Signature.ofValue? signature.toValue = some signature := by
  have hshape : signature.toValue.member? "shape" = some (Shape.toValue signature.shape) := rfl
  have hparameters : signature.toValue.member? "parameters" =
      some (.array (signature.parameters.map Parameter.toValue)) := rfl
  rw [Signature.ofValue?, hshape, hparameters]
  simp only [Option.bind_eq_bind, Option.bind_some, Shape.ofValue?_toValue, Value.items?,
    mapM_ofValue?_toValue]
  rfl

/-! ### From texts to signatures -/

/-- A text with the tokens of a signature describes it. -/
theorem ofJson?_of_readTokens {text : Text} {signature : Signature}
    (htokens : readTokens text = some signature.jsonTokens) :
    Signature.ofJson? text = some signature := by
  rw [Signature.ofJson?, htokens, Option.bind_eq_bind, Option.bind_some, readValue_jsonTokens,
    Option.bind_eq_bind, Option.bind_some, Signature.ofValue?_toValue]

/-- A signature is read back from its JSON on one line and from its JSON on indented lines, also with
the line feed behind it that a report has. -/
theorem ofJson?_toJson (signature : Signature) :
    Signature.ofJson? signature.toCompactJson = some signature ∧
    Signature.ofJson? signature.toPrettyJson = some signature ∧
    Signature.ofJson? (signature.toPrettyJson ++ ['\n']) = some signature ∧
    Function.Injective Signature.toCompactJson ∧ Function.Injective Signature.toPrettyJson := by
  have hcompact (signature : Signature) :
      Signature.ofJson? signature.toCompactJson = some signature :=
    ofJson?_of_readTokens (readTokens_compact signature.jsonTokens)
  have hspaced (signature : Signature) {behind : Text} (hbehind : OnlySpaces behind) :
      Signature.ofJson? (signature.toPrettyJson ++ behind) = some signature :=
    ofJson?_of_readTokens (readTokens_pretty signature.jsonTokens hbehind)
  have hpretty (signature : Signature) :
      Signature.ofJson? signature.toPrettyJson = some signature := by
    have hnothing : OnlySpaces [] := by simp [OnlySpaces]
    rw [← hspaced signature hnothing, List.append_nil]
  refine ⟨hcompact signature, hpretty signature, hspaced signature ?_, ?_, ?_⟩
  · simp [OnlySpaces, isSpace]
  · intro first second hsame
    apply Option.some.inj
    rw [← hcompact first, ← hcompact second, hsame]
  · intro first second hsame
    apply Option.some.inj
    rw [← hpretty first, ← hpretty second, hsame]

end DeclaredParams
