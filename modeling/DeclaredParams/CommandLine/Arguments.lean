import DeclaredParams.Shape.Selection
import DeclaredParams.Text.Visible

/-!
# Command line arguments

`parseArguments` reads the arguments from left to right. A flag stands alone, a setting takes its
value from the same argument after an equals sign or from the next argument, and one argument more
may name the input. After two dashes every argument names an input. A value is held until the next
flag or setting is met, or the end, and only then is it checked; an argument that is not known
stops the reading before the value that is held is looked at. `Stop` lists what ends the reading
early: a request for help or for the version, or a `UsageError`.
-/

set_option autoImplicit false
set_option relaxedAutoImplicit false

namespace DeclaredParams.CommandLine

/-- When a report is to be coloured. -/
inductive ColourMode where
  /-- As the environment suggests. -/
  | auto
  /-- In any case. -/
  | always
  /-- Not at all. -/
  | never
  deriving DecidableEq, Repr

/-- The mode with a given name. -/
def ColourMode.ofName? : String → Option ColourMode
  | "auto" => some .auto
  | "always" => some .always
  | "never" => some .never
  | _ => none

/-- The arguments without a value. -/
inductive Flag where
  /-- Recognise arrow functions. -/
  | arrow
  /-- Recognise class constructors. -/
  | classConstructor
  /-- Recognise regular functions. -/
  | regular
  /-- Write JSON. -/
  | json
  /-- Print the help. -/
  | help
  /-- Print the version. -/
  | version
  deriving DecidableEq, Repr

/-- The arguments with a value. -/
inductive Setting where
  /-- When to colour the report. -/
  | color
  /-- The greatest size of an input. -/
  | maxFileSize
  /-- The input. -/
  | path
  deriving DecidableEq, Repr

/-- The long names that stand alone. -/
def Flag.ofLongName? : String → Option Flag
  | "arrow" => some .arrow
  | "class" => some .classConstructor
  | "regular" => some .regular
  | "json" => some .json
  | "help" => some .help
  | "version" => some .version
  | _ => none

/-- The letters that stand alone. -/
def Flag.ofLetter? : Char → Option Flag
  | 'h' => some .help
  | 'V' => some .version
  | _ => none

/-- The long names that take a value. -/
def Setting.ofLongName? : String → Option Setting
  | "color" => some .color
  | "max-file-size" => some .maxFileSize
  | _ => none

/-- How a flag is shown in a message. -/
def Flag.shown : Flag → String
  | .arrow => "--arrow"
  | .classConstructor => "--class"
  | .regular => "--regular"
  | .json => "--json"
  | .help => "--help"
  | .version => "--version"

/-- How a setting is shown in a message. -/
def Setting.shown : Setting → String
  | .color => "--color <WHEN>"
  | .maxFileSize => "--max-file-size <SIZE>"
  | .path => "[PATH]"

/-- What is wrong with the arguments. -/
inductive UsageError where
  /-- An argument is not known, or there is one too many. -/
  | unexpectedArgument (argument : String)
  /-- A flag was given a value. -/
  | unexpectedValue (value : String) (argument : String)
  /-- An argument was given twice. -/
  | repeated (argument : String)
  /-- A value is missing. -/
  | missingValue (argument : String)
  /-- A value is not one of those possible. -/
  | invalidValue (value : String) (argument : String)
  deriving DecidableEq, Repr

/-- What a message shows of an argument as it was given. -/
def shownGiven (given : String) : String :=
  String.ofList (Text.visible given.toList)

/-- The wording of a usage error. -/
def UsageError.message : UsageError → String
  | .unexpectedArgument argument =>
    "error: unexpected argument '" ++ shownGiven argument ++ "' found"
  | .unexpectedValue value argument =>
    "error: unexpected value '" ++ shownGiven value ++ "' for '" ++ argument ++
      "' found; no more were expected"
  | .repeated argument => "error: the argument '" ++ argument ++ "' cannot be used multiple times"
  | .missingValue argument =>
    "error: a value is required for '" ++ argument ++ "' but none was supplied"
  | .invalidValue value argument =>
    "error: invalid value '" ++ shownGiven value ++ "' for '" ++ argument ++ "'"

/-- What ends the reading of the arguments early. -/
inductive Stop where
  /-- A request for the help, in its long or its short form. -/
  | help (long : Bool)
  /-- A request for the version. -/
  | version
  /-- A usage error. -/
  | usage (failure : UsageError)
  deriving DecidableEq, Repr

/-- What the arguments ask for. -/
structure Arguments where
  /-- The flags that were given. -/
  flags : List Flag := []
  /-- When to colour the report, if that was said. -/
  color : Option ColourMode := none
  /-- The greatest size of an input, as it was written. -/
  maxFileSize : Option String := none
  /-- The input, if one was named. -/
  path : Option String := none
  deriving DecidableEq, Repr

namespace Arguments

/-- The shapes that were selected, if any was. -/
def selection (arguments : Arguments) : Option ShapeSet :=
  let shapes : ShapeSet :=
    ⟨arguments.flags.contains .arrow, arguments.flags.contains .classConstructor,
      arguments.flags.contains .regular⟩
  if shapes.anyEnabled then some shapes else none

/-- The shapes to recognise: those selected, or all. -/
def shapes (arguments : Arguments) : ShapeSet :=
  .ofChoice arguments.selection

/-- Whether to write JSON. -/
def json (arguments : Arguments) : Bool :=
  arguments.flags.contains .json

/-- When to colour the report. -/
def colourMode (arguments : Arguments) : ColourMode :=
  arguments.color.getD .auto

/-- The path of the input; standard input has none, and neither has a single dash. -/
def inputPath (arguments : Arguments) : Option String :=
  arguments.path.filter fun path ↦ path != "-"

/-- The arguments with the value of a setting, once it is checked. -/
def assign (arguments : Arguments) (setting : Setting) (value : String) :
    Except Stop Arguments :=
  match setting with
  | .color =>
    if arguments.color.isSome then .error (.usage (.repeated setting.shown))
    else if value.isEmpty then .error (.usage (.missingValue setting.shown))
    else
      match ColourMode.ofName? value with
      | some mode => .ok { arguments with color := some mode }
      | none => .error (.usage (.invalidValue value setting.shown))
  | .maxFileSize =>
    if arguments.maxFileSize.isSome then .error (.usage (.repeated setting.shown))
    else .ok { arguments with maxFileSize := some value }
  | .path =>
    if arguments.path.isSome then .error (.usage (.repeated setting.shown))
    else if value.isEmpty then .error (.usage (.missingValue setting.shown))
    else .ok { arguments with path := some value }

end Arguments

/-! ### Reading argument by argument -/

/-- A setting that was met and whose value is not checked yet. -/
structure Pending where
  /-- The setting. -/
  setting : Setting
  /-- Its value, once it is there. -/
  value : Option String
  deriving DecidableEq, Repr

/-- The position between two arguments. -/
structure Progress where
  /-- What is known and checked. -/
  arguments : Arguments := {}
  /-- The setting that is not checked yet. -/
  pending : Option Pending := none
  /-- Whether an input was named. -/
  inputNamed : Bool := false
  /-- Whether two dashes were met. -/
  onlyInputs : Bool := false
  deriving DecidableEq, Repr

namespace Progress

/-- The position after the pending setting is checked. -/
def settle (progress : Progress) : Except Stop Progress :=
  match progress.pending with
  | none => .ok progress
  | some ⟨setting, none⟩ => .error (.usage (.missingValue setting.shown))
  | some ⟨setting, some value⟩ => do
    return { progress with arguments := ← progress.arguments.assign setting value, pending := none }

/-- The setting that takes the next argument for its value. -/
def awaiting? (progress : Progress) : Option Setting :=
  match progress.pending with
  | some ⟨setting, none⟩ => some setting
  | _ => none

/-- The position after a flag; a flag that is not a switch stops the reading. -/
def flag (progress : Progress) (flag : Flag) (long : Bool) : Except Stop Progress := do
  let settled ← progress.settle
  match flag with
  | .help => throw (.help long)
  | .version => throw .version
  | _ =>
    if settled.arguments.flags.contains flag then throw (.usage (.repeated flag.shown))
    return { settled with
      arguments := { settled.arguments with flags := flag :: settled.arguments.flags } }

/-- The position after a setting, whose value may be part of the argument. -/
def setting (progress : Progress) (setting : Setting) (attached : Option String) :
    Except Stop Progress := do
  let settled ← progress.settle
  match attached with
  | some value => return { settled with arguments := ← settled.arguments.assign setting value }
  | none => return { settled with pending := some ⟨setting, none⟩ }

/-- The position after an argument that starts with two dashes. -/
def long (progress : Progress) (name : String) (attached : Option String) :
    Except Stop Progress :=
  match Flag.ofLongName? name, Setting.ofLongName? name with
  | some known, _ =>
    match attached with
    | some value => .error (.usage (.unexpectedValue value known.shown))
    | none => progress.flag known true
  | none, some known => progress.setting known attached
  | none, none => .error (.usage (.unexpectedArgument ("--" ++ name)))

/-- The position after letters behind one dash. -/
def letters (progress : Progress) : List Char → Except Stop Progress
  | [] => .ok progress
  | letter :: rest =>
    match Flag.ofLetter? letter with
    | some known => do (← progress.flag known false).letters rest
    | none => .error (.usage (.unexpectedArgument (String.ofList ['-', letter])))

/-- The position after an argument that names an input. -/
def input (progress : Progress) (argument : String) : Except Stop Progress :=
  if progress.inputNamed then .error (.usage (.unexpectedArgument argument))
  else do
    return { (← progress.settle) with pending := some ⟨.path, some argument⟩, inputNamed := true }

/-- The position after an argument that is no option: it is the value that is awaited, or it names
an input. -/
def operand (progress : Progress) (argument : String) : Except Stop Progress :=
  match progress.awaiting? with
  | some setting => .ok { progress with pending := some ⟨setting, some argument⟩ }
  | none => progress.input argument

/-- The name and the value of a long option, given without its dashes. -/
def splitAttached (text : List Char) : String × Option String :=
  match text.dropWhile fun character ↦ character != '=' with
  | [] => (String.ofList text, none)
  | _ :: value =>
    (String.ofList (text.takeWhile fun character ↦ character != '='), some (String.ofList value))

/-- The position after one more argument. -/
def step (progress : Progress) (argument : String) : Except Stop Progress :=
  if progress.onlyInputs then progress.input argument
  else
    match argument.toList with
    | ['-', '-'] => .ok { progress with onlyInputs := true }
    | '-' :: '-' :: text => progress.long (splitAttached text).1 (splitAttached text).2
    | '-' :: letter :: rest => progress.letters (letter :: rest)
    | _ => progress.operand argument

end Progress

/-- What the arguments ask for, or why the reading stopped. -/
def parseArguments (arguments : List String) : Except Stop Arguments := do
  let progress ← arguments.foldlM Progress.step {}
  return (← progress.settle).arguments

end DeclaredParams.CommandLine
