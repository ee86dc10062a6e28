import DeclaredParams.CommandLine.Run

/-!
# The program

`main` gathers what a run can see: the environment variables that matter, and either the one file
that the arguments name or the standard input. It hands them to `CommandLine.run` and writes the
outcome. When standard output refuses the text, the run is asked again for the outcome on a device
that fails in this way.
-/

set_option autoImplicit false
set_option relaxedAutoImplicit false

namespace DeclaredParams.CommandLine

/-- The number that the operating system gave to a failure. -/
def systemCode? : IO.Error → Option UInt32
  | .alreadyExists _ code _ => some code
  | .otherError code _ => some code
  | .resourceBusy code _ => some code
  | .resourceVanished code _ => some code
  | .unsupportedOperation code _ => some code
  | .hardwareFault code _ => some code
  | .unsatisfiedConstraints code _ => some code
  | .illegalOperation code _ => some code
  | .protocolError code _ => some code
  | .timeExpired code _ => some code
  | .interrupted _ code _ => some code
  | .noFileOrDirectory _ code _ => some code
  | .invalidArgument _ code _ => some code
  | .permissionDenied _ code _ => some code
  | .resourceExhausted _ code _ => some code
  | .inappropriateType _ code _ => some code
  | .noSuchThing _ code _ => some code
  | .unexpectedEof => none
  | .userError _ => none

/-- The positive form of a number that may have been given as a negative one of 32 bits. -/
def magnitude (code : UInt32) : Nat :=
  min code.toNat (UInt32.size - code.toNat)

/-- The cause behind a failure. -/
def causeOf (failure : IO.Error) : IoCause :=
  match (systemCode? failure).bind fun code ↦ OsError.ofCode? (magnitude code) with
  | some known => .os known
  | none => .described (toString failure)

/-- The result of an action, or the cause of its failure. -/
def attempt {α : Type} (action : IO α) : IO (Except IoCause α) := do
  match ← action.toBaseIO with
  | .ok result => return .ok result
  | .error failure => return .error (causeOf failure)

/-- What the operating system answers about a path. -/
def askFile (path : String) : IO FileAnswer := do
  if path.toList.contains '\x00' then return .failed .nulInName
  let file := (← IO.currentDir) / path
  match ← attempt file.metadata with
  | .error cause => return .failed cause
  | .ok found =>
    let content ← attempt (IO.FS.readBinFile file)
    return ⟨.ok found.byteSize.toNat, content.map ByteArray.toList⟩

/-- The deliveries of a stream until a number of bytes has come, it ends or it fails, behind those
that came before in reverse order. A descriptor that is not open is at its end, and a request that
was interrupted is made again. -/
partial def receive (stream : IO.FS.Stream) (allowance : Nat) (received : List Delivery) :
    IO (List Delivery) := do
  if allowance = 0 then return received.reverse
  match ← attempt (stream.read (min allowance 65536).toUSize) with
  | .error (.os .badDescriptor) => return received.reverse
  | .error (.os .interrupted) => receive stream allowance (.interrupted :: received)
  | .error cause => return (.failed cause :: received).reverse
  | .ok chunk =>
    match Delivery.ofBytes? chunk.toList with
    | none => return received.reverse
    | some delivery => receive stream (allowance - chunk.size) (delivery :: received)

/-- The environment variables that a run looks at. -/
def readEnvironment : IO Environment := do
  let names := ["NO_COLOR", "FORCE_COLOR", "TERM", "RUST_LOG"]
  let values ← names.mapM fun name ↦ do return (name, ← IO.getEnv name)
  return fun name ↦ (values.lookup name).join

/-- The part of the world that the arguments lead to. -/
def gather (arguments : List String) : IO World := do
  let environment ← readEnvironment
  let blind : World :=
    { arguments, environment
      files := fun _ ↦ .failed (.os .notFound)
      input := .ofBytes []
      output := .accepting
      toTerminal := ← (← IO.getStdout).isTty }
  let .ok parsed := parseArguments arguments | return blind
  let .ok limit := parsed.limit | return blind
  match parsed.inputPath with
  | some path =>
    let file ← askFile path
    return { blind with files := fun _ ↦ file }
  | none =>
    let deliveries ← receive (← IO.getStdin) (allowance limit) []
    return { blind with input := ⟨deliveries, .closed⟩ }

/-- Writing of a text to standard output; the answer is the device as it has shown itself. -/
def write (text : Text) : IO OutputDevice := do
  let output ← IO.getStdout
  match ← attempt (output.putStr (String.ofList text) *> output.flush) with
  | .ok _ => return .accepting
  | .error cause =>
    if noticed : cause ≠ .os .interrupted ∧ cause ≠ .os .badDescriptor then
      return .failing ⟨cause, noticed⟩
    else return .accepting

/-- Writing of what belongs on standard error; the answer is the exit code. -/
def conclude (outcome : Outcome) : IO UInt32 := do
  match outcome with
  | .finished _ _ errors => IO.eprint errors
  | .misused errors failure => IO.eprintln (errors ++ failure.message)
  | .aborted errors => IO.eprint errors
  return outcome.exitCode.toUInt32

/-- A run in the world as it is. -/
def perform (world : World) : IO UInt32 := do
  let outcome := run world
  if outcome.output.isEmpty then conclude outcome
  else
    match ← write outcome.output with
    | .accepting => conclude outcome
    | output => conclude (run { world with output })

end DeclaredParams.CommandLine

/-- The program. -/
def main (arguments : List String) : IO UInt32 := do
  DeclaredParams.CommandLine.perform (← DeclaredParams.CommandLine.gather arguments)
