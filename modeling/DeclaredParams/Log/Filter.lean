import DeclaredParams.Log.Basic
import DeclaredParams.Text.Blank

/-!
# Log filters

A `LogFilter` gives thresholds to targets. It is written as a list of directives between commas:
a level alone is the threshold of all targets that no other directive names, `target=level` that
of the targets whose names start so, and a target alone lets everything of it through.
`LogFilter.admits` takes the directive with the longest name that fits a record; a target that no
directive fits is silent. A `LogSetup` is the filter that a text stands for, together with what had
to be refused in the text, which the log is warned of before its first record.
-/

set_option autoImplicit false
set_option relaxedAutoImplicit false

namespace DeclaredParams

/-- The threshold of the targets whose names start in a certain way. -/
structure Directive where
  /-- The start of the names; without one the directive fits every target. -/
  target : Option String
  /-- What is let through. -/
  threshold : Threshold
  deriving DecidableEq, Repr

namespace Directive

/-- The directive that a part of a written filter stands for, or else what of the part is refused:
a level that is none, or a part with more than one equals sign. -/
def ofPart (part : Text) : Except Text Directive :=
  match part.splitOn '=' with
  | [word] =>
    match Threshold.ofName? (String.ofList word) with
    | some threshold => .ok ⟨none, threshold⟩
    | none => .ok ⟨some (String.ofList word), some .trace⟩
  | [target, level] =>
    let name := Text.trim level
    if name.isEmpty then .ok ⟨some (String.ofList target), some .trace⟩
    else
      match Threshold.ofName? (String.ofList name) with
      | some threshold => .ok ⟨some (String.ofList target), threshold⟩
      | none => .error name
  | _ => .error part

/-- The directive applies to a target. -/
def fits (directive : Directive) (target : String) : Bool :=
  match directive.target with
  | some start => start.toList.isPrefixOf target.toList
  | none => true

/-- The length of the name in the directive. -/
def weight (directive : Directive) : Nat :=
  match directive.target with
  | some start => start.utf8ByteSize
  | none => 0

end Directive

/-- Directives with different names. -/
abbrev LogFilter := List Directive

namespace LogFilter

/-- The filter with one more directive, which takes the place of one with the same name. -/
def insert (filter : LogFilter) (directive : Directive) : LogFilter :=
  if filter.any fun known ↦ known.target == directive.target then
    filter.map fun known ↦ if known.target == directive.target then directive else known
  else filter ++ [directive]

/-- The filter with these directives. Without any it lets nothing through but errors. -/
def ofDirectives (directives : List Directive) : LogFilter :=
  if directives.isEmpty then [⟨none, some .error⟩] else directives.foldl insert []

/-- The directive with the longest name that fits a target, the later one of two. -/
def directive? (filter : LogFilter) (target : String) : Option Directive :=
  (filter.filter fun directive ↦ directive.fits target).foldl (fun best directive ↦
    match best with
    | some known => if known.weight ≤ directive.weight then some directive else best
    | none => some directive) none

/-- The filter lets a record through. -/
def admits (filter : LogFilter) (record : LogRecord) : Bool :=
  match filter.directive? record.target with
  | some directive => directive.threshold.admits record.level
  | none => false

/-- The filter that holds unless another is given: warnings and errors. -/
def standard : LogFilter := [⟨none, some .warning⟩]

end LogFilter

/-- What a written filter comes to. -/
structure LogSetup where
  /-- The filter. -/
  filter : LogFilter
  /-- What was refused in the text. -/
  refused : List Text
  deriving DecidableEq, Repr

namespace LogSetup

/-- The filter that a text stands for and what is refused in it. A slash, behind which the text may
go on with an expression that messages have to match, is read as part of a name here, and no message
is matched against an expression. -/
def ofText (text : String) : LogSetup :=
  let parts := ((text.toList.splitOn ',').map Text.trim).filter fun part ↦ !part.isEmpty
  let outcomes := parts.map Directive.ofPart
  { filter := .ofDirectives (outcomes.filterMap Except.toOption)
    refused := outcomes.filterMap fun
      | .ok _ => none
      | .error shown => some shown }

/-- The set-up that holds unless a filter is given. -/
def standard : LogSetup := ⟨.standard, []⟩

/-- One line about everything that was refused. -/
def warnings (setup : LogSetup) : String :=
  String.join (setup.refused.map fun shown ↦
    "warning: invalid logging spec '" ++ String.ofList shown ++ "', ignoring it\n")

end LogSetup

end DeclaredParams
