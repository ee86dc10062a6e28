import DeclaredParams.Parameter.Basic
import DeclaredParams.Text.Blank

/-!
# Classification of one token

A token is the text between two commas of a parameter list. `ParameterRule.all` is the ordered
table of rules, and the first rule that accepts a token describes its parameter: a leading rest
marker decides before an equals sign does, and a token with neither is a plain name. The default
rule trims the name it cuts off, the rest rule keeps what follows the marker as it is.
-/

set_option autoImplicit false
set_option relaxedAutoImplicit false

namespace DeclaredParams

/-- A way to read a token as a parameter. -/
inductive ParameterRule where
  /-- The token starts with the rest marker. -/
  | restMarker
  /-- The token has an equals sign. -/
  | defaultValue
  /-- Every token is a name. -/
  | plainName
  deriving DecidableEq, Repr

namespace ParameterRule

/-- The rules in the order in which they are tried. -/
def all : List ParameterRule :=
  [.restMarker, .defaultValue, .plainName]

/-- The name of a rule in a log. -/
def name : ParameterRule → String
  | .restMarker => "rest"
  | .defaultValue => "default"
  | .plainName => "plain"

/-- The parameter that a rule reads from a token, if the rule accepts it. -/
def apply (rule : ParameterRule) (token : Text) : Option Parameter :=
  match rule with
  | .restMarker =>
    if Parameter.restMarker.isPrefixOf token then
      some (.rest (token.drop Parameter.restMarker.length))
    else none
  | .defaultValue => (Text.cut? ['='] token).map fun parts ↦ .defaulted (Text.trim parts.1)
  | .plainName => some (.plain token)

end ParameterRule

/-- What the rules make of a text between two commas. -/
structure Classification where
  /-- The text without surrounding blanks. -/
  token : Text
  /-- The first rule that accepts the token. -/
  rule : ParameterRule
  /-- The parameter that the rule reads from it. -/
  parameter : Parameter
  deriving DecidableEq, Repr

/-- The classification of a text between two commas; a blank one has none. -/
def Classification.ofText? (text : Text) : Option Classification :=
  let token := Text.trim text
  if token.isEmpty then none
  else ParameterRule.all.findSome? fun rule ↦
    (rule.apply token).map fun parameter ↦ ⟨token, rule, parameter⟩

/-- The parameter declared by a text between two commas; a blank one declares none. -/
def Parameter.classify (text : Text) : Option Parameter :=
  (Classification.ofText? text).map Classification.parameter

end DeclaredParams
