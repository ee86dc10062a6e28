import DeclaredParams.Text.Visible

/-!
# Log records

A `LogRecord` is a message of one level from one target, the part of the program that speaks. A
`Threshold` is the least important level that is let through, if any is. `LogRecord.line` writes
a record on a line of its own and indents the further lines of its message; of the line it keeps
what is visible.
-/

set_option autoImplicit false
set_option relaxedAutoImplicit false

namespace DeclaredParams

/-- How important a record is. -/
inductive Level where
  /-- Something failed. -/
  | error
  /-- Something may be wrong. -/
  | warning
  /-- A result. -/
  | info
  /-- A step towards a result. -/
  | debug
  /-- A detail of a step. -/
  | trace
  deriving DecidableEq, Repr

namespace Level

/-- All levels, the most important first. -/
def all : List Level :=
  [.error, .warning, .info, .debug, .trace]

/-- The number of levels that are more important. -/
def rank : Level → Nat
  | .error => 0
  | .warning => 1
  | .info => 2
  | .debug => 3
  | .trace => 4

/-- The name of a level. -/
def name : Level → String
  | .error => "ERROR"
  | .warning => "WARN"
  | .info => "INFO"
  | .debug => "DEBUG"
  | .trace => "TRACE"

end Level

/-- The least important level that is let through; without one nothing is. -/
abbrev Threshold := Option Level

namespace Threshold

/-- The threshold lets a level through. -/
def admits (threshold : Threshold) (level : Level) : Bool :=
  match threshold with
  | some least => level.rank ≤ least.rank
  | none => false

/-- The threshold with a given name, in any case. -/
def ofName? (name : String) : Option Threshold :=
  if name.toUpper == "OFF" then some none
  else (Level.all.find? fun level ↦ level.name == name.toUpper).map some

end Threshold

/-- A message with its level and its target. -/
structure LogRecord where
  /-- How important the record is. -/
  level : Level
  /-- The part of the program that speaks. -/
  target : String
  /-- What it says. -/
  message : String
  deriving DecidableEq, Repr

namespace LogRecord

/-- The level, filled up to five characters. -/
def paddedLevel (level : Level) : String :=
  level.name ++ String.ofList (List.replicate (5 - level.name.length) ' ')

/-- The message with its further lines indented by four blanks. -/
def indentedMessage (record : LogRecord) : String :=
  String.ofList (record.message.toList.flatMap fun character ↦
    if character == '\n' then '\n' :: List.replicate 4 ' ' else [character])

/-- The record as a line, with its line feed and without the time that stands in front of its level.
It is the line that is written where standard error is no terminal, in one colour. -/
def line (record : LogRecord) : String :=
  let written :=
    "[" ++ paddedLevel record.level ++ " " ++ record.target ++ "] " ++
      record.indentedMessage ++ "\n"
  String.ofList (Text.visible written.toList)

end LogRecord

end DeclaredParams
