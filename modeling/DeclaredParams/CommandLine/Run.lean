import DeclaredParams.CommandLine.Colour
import DeclaredParams.CommandLine.Help
import DeclaredParams.Log.Filter
import DeclaredParams.Log.Inspection
import DeclaredParams.Report.Styled
import DeclaredParams.Signature.Json
import DeclaredParams.Size
import DeclaredParams.Source.Session

/-!
# A run of the program

A `World` is all that a run can see: its arguments, the environment, the files, standard input, and
whether standard output is a terminal and accepts what is written or fails with a `WriteFailure`.
`run` gives the `Outcome`. It sets up the log, reads the arguments, then the size limit, then the
source, inspects it and writes the report; the first of these that fails ends the run. Warnings
about the log, its records and error messages go to standard error in the order in which they arise.
-/

set_option autoImplicit false
set_option relaxedAutoImplicit false

namespace DeclaredParams.CommandLine

/-- A failure to write that the program gets to see. An attempt that was interrupted is repeated,
and what goes to a descriptor that is not open is taken for written. -/
structure WriteFailure where
  /-- Why the attempt failed. -/
  cause : IoCause
  /-- It is none of the causes that are passed over. -/
  noticed : cause ≠ .os .interrupted ∧ cause ≠ .os .badDescriptor
  deriving DecidableEq, Repr

/-- What becomes of the text written to standard output. -/
inductive OutputDevice where
  /-- It is accepted. -/
  | accepting
  /-- Every attempt to write fails. -/
  | failing (failure : WriteFailure)
  deriving DecidableEq, Repr

/-- A device on which every attempt to write fails, since it is full. -/
def OutputDevice.full : OutputDevice :=
  .failing ⟨.os .noSpace, by decide⟩

/-- All that a run can see. -/
structure World where
  /-- The arguments. -/
  arguments : List String
  /-- The environment variables. -/
  environment : Environment
  /-- What the operating system answers about each path. -/
  files : String → FileAnswer
  /-- Standard input, as the reader of standard input delivers it. A descriptor that is not open has
  no failure there but is at its end. -/
  input : ByteStream
  /-- Standard output. -/
  output : OutputDevice
  /-- Whether standard output is a terminal. -/
  toTerminal : Bool

/-- How a run ends, and what it has written to standard error until then. -/
inductive Outcome where
  /-- The run ends with an exit code and has written to standard output, too. -/
  | finished (code : Nat) (output : Text) (errors : String)
  /-- The arguments are wrong, which is said behind the errors, and nothing was done. -/
  | misused (errors : String) (failure : UsageError)
  /-- The run breaks off without an exit code of its own. -/
  | aborted (errors : String)
  deriving DecidableEq, Repr

/-- The exit code of a run that has done its work. -/
def successCode : Nat := 0

/-- The exit code of a run that could not do its work. -/
def failureCode : Nat := 1

/-- The exit code of a run whose arguments are wrong. -/
def misuseCode : Nat := 2

/-- The exit code of a run that breaks off. -/
def abortedCode : Nat := 101

namespace Outcome

/-- The exit code that the caller of the program sees. -/
def exitCode : Outcome → Nat
  | .finished code _ _ => code
  | .misused _ _ => misuseCode
  | .aborted _ => abortedCode

/-- The text that arrives on standard output. -/
def output : Outcome → Text
  | .finished _ output _ => output
  | .misused _ _ | .aborted _ => []

/-- The outcome of a run that has written something to standard error before all else. -/
def behind (before : String) : Outcome → Outcome
  | .finished code output errors => .finished code output (before ++ errors)
  | .misused errors failure => .misused (before ++ errors) failure
  | .aborted errors => .aborted (before ++ errors)

@[simp]
theorem exitCode_behind (before : String) (outcome : Outcome) :
    (outcome.behind before).exitCode = outcome.exitCode := by
  cases outcome <;> rfl

@[simp]
theorem output_behind (before : String) (outcome : Outcome) :
    (outcome.behind before).output = outcome.output := by
  cases outcome <;> rfl

@[simp]
theorem behind_empty (outcome : Outcome) : outcome.behind "" = outcome := by
  cases outcome <;> rw [behind, String.empty_append]

end Outcome

/-- A message in the name of the program, with its line feed. -/
def complaint (message : String) : String :=
  "argsof: " ++ message ++ "\n"

/-- Lines, each with its line feed. -/
def unlines (lines : List String) : Text :=
  lines.flatMap fun line ↦ line.toList ++ ['\n']

/-! ### The stages of a run -/

/-- The end of a run whose arguments stopped it. Help and version are printed as far as standard
output accepts them. -/
def Stop.outcome (stop : Stop) (device : OutputDevice) : Outcome :=
  let printed := fun (lines : List String) ↦
    match device with
    | .accepting => Outcome.finished successCode (unlines lines) ""
    | .failing _ => .finished successCode [] ""
  match stop with
  | .help true => printed longHelp
  | .help false => printed shortHelp
  | .version => printed [versionLine]
  | .usage failure => .misused "" failure

/-- The limit on the size of an input that the arguments set. -/
def Arguments.limit (arguments : Arguments) : Except SizeError UInt64 :=
  match arguments.maxFileSize with
  | some size => parseSize size.toList
  | none => .ok defaultLimit

/-- The message about a size that cannot be read. -/
def sizeComplaint (arguments : Arguments) (failure : SizeError) : String :=
  complaint ("invalid --max-file-size '" ++ arguments.maxFileSize.getD "" ++ "': " ++
    failure.message)

/-- The source text that the arguments name. -/
def readSource (world : World) (arguments : Arguments) (limit : UInt64) : Except ReadError Text :=
  match arguments.inputPath with
  | some path => readFile limit path (world.files path)
  | none => readStream limit world.input

/-- The records of the reading. -/
def readRecords (world : World) (arguments : Arguments) (limit : UInt64) : List LogRecord :=
  match arguments.inputPath with
  | some path =>
    match readFileBytes limit path (world.files path) with
    | .ok content => [.ofFileRead path content]
    | .error _ => []
  | none => []

/-- What is written about a signature. -/
def report (world : World) (arguments : Arguments) (signature : Signature) : Text :=
  if arguments.json then signature.toPrettyJson ++ ['\n']
  else
    Report.styled (coloured arguments.colourMode world.environment world.toTerminal)
      signature.parameters

/-- How the environment sets up the log. -/
def logSetup (environment : Environment) : LogSetup :=
  match environment "RUST_LOG" with
  | some text => .ofText text
  | none => .standard

/-- The filter that the environment sets. -/
def logFilter (environment : Environment) : LogFilter :=
  (logSetup environment).filter

/-- The lines of the records that a filter lets through. -/
def logText (filter : LogFilter) (records : List LogRecord) : String :=
  String.join ((records.filter filter.admits).map LogRecord.line)

/-- The end of a run that has read its source. Nothing is written of an empty report, so a failing
device does not matter to it; a report as JSON cannot be given up halfway. -/
def deliver (world : World) (arguments : Arguments) (signature : Signature) (log : String) :
    Outcome :=
  let written := report world arguments signature
  match world.output with
  | .accepting => .finished successCode written log
  | .failing failure =>
    if written.isEmpty then .finished successCode [] log
    else if arguments.json then .aborted log
    else
      .finished failureCode []
        (log ++ complaint ("error writing output: " ++ failure.cause.message))

/-- A run whose arguments could be read. -/
def runWith (world : World) (arguments : Arguments) : Outcome :=
  match arguments.limit with
  | .error failure => .finished failureCode [] (sizeComplaint arguments failure)
  | .ok limit =>
    let filter := logFilter world.environment
    let reading := readRecords world arguments limit
    match readSource world arguments limit with
    | .error failure =>
      .finished failureCode [] (logText filter reading ++ complaint failure.message)
    | .ok source =>
      let signature := inspect arguments.shapes source
      let records := reading ++ LogRecord.ofInspection arguments.shapes source ++
        [.ofResult arguments.shapes signature.shape]
      deliver world arguments signature (logText filter records)

/-- A run whose log is set up. -/
def respond (world : World) : Outcome :=
  match parseArguments world.arguments with
  | .error stop => stop.outcome world.output
  | .ok arguments => runWith world arguments

/-- A run of the program. -/
def run (world : World) : Outcome :=
  (respond world).behind (logSetup world.environment).warnings

end DeclaredParams.CommandLine
