import DeclaredParams.CommandLine.Run
import Mathlib.Tactic.SplitIfs

/-!
# Runs whose standard output fails

Up to the delivery of its report a run does not look at standard output: `prepare` is what it does
until then, and `runWith_eq` and `prepare_output` say so. Nothing arrives on a device that fails
(`output_run_failing`), and it changes nothing for a run that has nothing to write
(`run_failing_of_silent`). A run that has something to write ends with a message and the exit code
of a failure where the report is text, and breaks off where it is JSON; `run_failing` is the
statement about whole runs.
-/

set_option autoImplicit false
set_option relaxedAutoImplicit false

namespace DeclaredParams.CommandLine

/-! ### Before the delivery -/

/-- What a run has when it comes to deliver its report, namely a signature and a log, or else what
it writes on standard error about its failure. -/
def prepare (world : World) (arguments : Arguments) : Except String (Signature × String) :=
  match arguments.limit with
  | .error failure => .error (sizeComplaint arguments failure)
  | .ok limit =>
    let filter := logFilter world.environment
    let reading := readRecords world arguments limit
    match readSource world arguments limit with
    | .error failure => .error (logText filter reading ++ complaint failure.message)
    | .ok source =>
      let signature := inspect arguments.shapes source
      let records := reading ++ LogRecord.ofInspection arguments.shapes source ++
        [.ofResult arguments.shapes signature.shape]
      .ok (signature, logText filter records)

theorem runWith_eq (world : World) (arguments : Arguments) :
    runWith world arguments =
      match prepare world arguments with
      | .error errors => .finished failureCode [] errors
      | .ok (signature, log) => deliver world arguments signature log := by
  rw [runWith, prepare]
  cases arguments.limit with
  | error failure => rfl
  | ok limit =>
    dsimp only
    cases readSource world arguments limit <;> rfl

/-- Nothing before the delivery depends on standard output. -/
theorem prepare_output (world : World) (arguments : Arguments) (device : OutputDevice) :
    prepare { world with output := device } arguments = prepare world arguments := rfl

section Devices

variable {world : World} {arguments : Arguments}

/-- A run whose arguments are accepted, on some device. -/
theorem run_of_accepted (haccepted : parseArguments world.arguments = .ok arguments)
    (device : OutputDevice) :
    run { world with output := device } =
      Outcome.behind (logSetup world.environment).warnings
        (match prepare world arguments with
        | .error errors => .finished failureCode [] errors
        | .ok (signature, log) =>
          deliver { world with output := device } arguments signature log) := by
  rw [run, respond, haccepted, ← prepare_output world arguments device]
  exact congrArg _ (runWith_eq _ arguments)

theorem deliver_accepting (signature : Signature) (log : String) :
    deliver { world with output := .accepting } arguments signature log =
      .finished successCode (report world arguments signature) log := rfl

theorem deliver_failing (signature : Signature) (log : String) (failure : WriteFailure) :
    deliver { world with output := .failing failure } arguments signature log =
      if (report world arguments signature).isEmpty then .finished successCode [] log
      else if arguments.json then .aborted log
      else
        .finished failureCode []
          (log ++ complaint ("error writing output: " ++ failure.cause.message)) := rfl

/-! ### On a device that fails -/

/-- Nothing arrives on a device that fails, whatever the arguments are. -/
theorem output_run_failing (world : World) (failure : WriteFailure) :
    (run { world with output := .failing failure }).output = [] := by
  cases hparsed : parseArguments world.arguments with
  | error stop =>
    rw [run, respond, hparsed, Outcome.output_behind]
    rcases stop with (_ | _) | _ | _ <;> rfl
  | ok arguments =>
    rw [run_of_accepted hparsed, Outcome.output_behind]
    cases prepare world arguments with
    | error errors => rfl
    | ok prepared =>
      dsimp only
      rw [deliver_failing]
      split_ifs <;> rfl

/-- A device that fails makes no difference to a run that writes nothing on one that accepts. -/
theorem run_failing_of_silent (haccepted : parseArguments world.arguments = .ok arguments)
    (hsilent : (run { world with output := .accepting }).output = []) (failure : WriteFailure) :
    run { world with output := .failing failure } = run { world with output := .accepting } := by
  rw [run_of_accepted haccepted, Outcome.output_behind] at hsilent
  rw [run_of_accepted haccepted, run_of_accepted haccepted]
  cases hprepared : prepare world arguments with
  | error errors => rfl
  | ok prepared =>
    rw [hprepared] at hsilent
    have hnothing : report world arguments prepared.1 = [] := hsilent
    dsimp only
    rw [deliver_failing, deliver_accepting, hnothing, if_pos List.isEmpty_nil]

/-- A run that writes a report on a device that accepts it loses the report on a device that fails.
Where the report is text, the run says why behind its log and ends with the exit code of a failure;
where it is JSON, the run breaks off behind its log. The failures meant are those that the program
gets to see: an interrupted attempt is made again, and a descriptor that is not open takes
everything, so neither is a failure of this kind. -/
theorem run_failing {written : Text} {log : String}
    (haccepted : parseArguments world.arguments = .ok arguments)
    (hwritten : run { world with output := .accepting } = .finished successCode written log)
    (hsome : written ≠ []) (failure : WriteFailure) :
    (run { world with output := .failing failure } =
        .finished failureCode []
          (log ++ complaint ("error writing output: " ++ failure.cause.message)) ↔
      arguments.json = false) ∧
    (run { world with output := .failing failure } = .aborted log ↔ arguments.json = true) := by
  rw [run_of_accepted haccepted] at hwritten ⊢
  cases hprepared : prepare world arguments with
  | error errors =>
    rw [hprepared] at hwritten
    cases hwritten
  | ok prepared =>
    rw [hprepared] at hwritten
    dsimp only at hwritten ⊢
    rw [deliver_accepting, Outcome.behind] at hwritten
    obtain ⟨-, rfl, rfl⟩ := Outcome.finished.inj hwritten
    rw [deliver_failing, if_neg (mt List.isEmpty_iff.mp hsome)]
    cases arguments.json with
    | true => simp [Outcome.behind]
    | false => simp [Outcome.behind, String.append_assoc]

end Devices

/-- The report on an arrow function with one parameter, as text and as JSON, for a full device. -/
theorem run_failing_of_full :
    run ⟨[], fun _ ↦ none, fun _ ↦ .failed (.os .notFound), .ofBytes [97, 61, 62, 97], .full,
        false⟩ =
      .finished 1 [] "argsof: error writing output: No space left on device (os error 28)\n" ∧
    run ⟨["--json"], fun _ ↦ none, fun _ ↦ .failed (.os .notFound), .ofBytes [97, 61, 62, 97],
      .full, false⟩ = .aborted "" := by
  let world : World :=
    ⟨[], fun _ ↦ none, fun _ ↦ .failed (.os .notFound), .ofBytes [97, 61, 62, 97], .accepting,
      false⟩
  let asked : World := { world with arguments := ["--json"] }
  have htext : run world = .finished successCode ['a', '\n'] "" := by decide +kernel
  have hjson : run asked = .finished successCode (run asked).output "" := by decide +kernel
  have hsome : (run asked).output ≠ [] := by decide +kernel
  have hmessage : complaint ("error writing output: " ++ (IoCause.os .noSpace).message) =
      "argsof: error writing output: No space left on device (os error 28)\n" := by decide +kernel
  constructor
  · have hnone : parseArguments world.arguments = .ok {} := rfl
    rw [← hmessage]
    exact (run_failing hnone htext (List.cons_ne_nil _ _) ⟨.os .noSpace, by decide⟩).1.mpr rfl
  · have hflag : parseArguments asked.arguments = .ok { flags := [.json] } := rfl
    exact (run_failing hflag hjson hsome ⟨.os .noSpace, by decide⟩).2.mpr rfl

end DeclaredParams.CommandLine
