import DeclaredParams.CommandLine.Run
import DeclaredParams.Proofs.CommandLine.Insertion
import DeclaredParams.Proofs.Source.Agreement

/-!
# Runs on a file and on standard input

A run on a file and a run on standard input that holds the same bytes end with the same exit code
and the same standard output (`SameResult`); what they say on standard error may differ. The
arguments of the two runs differ in the input alone, the two readings are alike, and nothing after
the reading looks at where the text came from (`finish_sameResult`). `run_file_sameResult` is the
statement about whole runs.
-/

set_option autoImplicit false
set_option relaxedAutoImplicit false

namespace DeclaredParams.CommandLine

/-- Two runs end with the same exit code and have written the same to standard output. -/
def SameResult (first second : Outcome) : Prop :=
  first.exitCode = second.exitCode ∧ first.output = second.output

/-- What was written to standard error before makes no difference. -/
theorem SameResult.behind {first second : Outcome} (hsame : SameResult first second)
    (before other : String) : SameResult (first.behind before) (second.behind other) := by
  rw [SameResult, Outcome.exitCode_behind, Outcome.exitCode_behind, Outcome.output_behind,
    Outcome.output_behind]
  exact hsame

/-! ### After the reading -/

/-- What a run writes to standard output and its exit code do not depend on its log. -/
theorem deliver_sameResult (world : World) (arguments : Arguments) (signature : Signature)
    (log other : String) :
    SameResult (deliver world arguments signature log)
      (deliver world arguments signature other) := by
  rw [deliver, deliver]
  cases world.output with
  | accepting => exact ⟨rfl, rfl⟩
  | failing failure =>
    dsimp only
    split_ifs
    · exact ⟨rfl, rfl⟩
    · exact ⟨rfl, rfl⟩
    · exact ⟨rfl, rfl⟩

/-- The end of a run whose reading is done and has left some records. -/
def finish (world : World) (arguments : Arguments) (reading : List LogRecord) :
    Except ReadError Text → Outcome
  | .error failure =>
    .finished failureCode []
      (logText (logFilter world.environment) reading ++ complaint failure.message)
  | .ok source =>
    let signature := inspect arguments.shapes source
    deliver world arguments signature
      (logText (logFilter world.environment)
        (reading ++ LogRecord.ofInspection arguments.shapes source ++
          [.ofResult arguments.shapes signature.shape]))

/-- A run whose limit is known reads its source and finishes. -/
theorem runWith_eq_finish (world : World) {arguments : Arguments} {limit : UInt64}
    (hlimit : arguments.limit = .ok limit) :
    runWith world arguments =
      finish world arguments (readRecords world arguments limit)
        (readSource world arguments limit) := by
  simp only [runWith, hlimit]
  cases readSource world arguments limit <;> rfl

section Runs

variable {world : World} {stream : ByteStream} {content : Bytes} {path : String}
  {given flags : Arguments}

/-- Whatever was asked for, readings that are alike lead to one result. -/
theorem finish_sameResult (hgiven : given.AddsPath path flags) {limit : UInt64} {size : Nat}
    {first second : Except ReadError Text} (halike : ReadAlike limit path size first second)
    (fileArguments streamArguments : List String) (fileReading streamReading : List LogRecord) :
    SameResult (finish { world with arguments := fileArguments } given fileReading first)
      (finish { world with arguments := streamArguments, input := stream } flags streamReading
        second) := by
  obtain ⟨rfl, -⟩ := hgiven
  cases halike with
  | tooLarge => exact ⟨rfl, rfl⟩
  | notUtf8 => exact ⟨rfl, rfl⟩
  | text source => exact deliver_sameResult world flags (inspect flags.shapes source) _ _

/-- Runs with the same flags end alike on a file and on a stream that holds the same bytes. -/
theorem runWith_sameResult (hflow : stream.flow = ⟨content, .ok .closed⟩)
    (hsize : content.length < UInt64.size) (hfile : world.files path = .ordinary content)
    (hdash : path ≠ "-") (hgiven : given.AddsPath path flags)
    (fileArguments streamArguments : List String) :
    SameResult (runWith { world with arguments := fileArguments } given)
      (runWith { world with arguments := streamArguments, input := stream } flags) := by
  have hlimits : given.limit = flags.limit := by
    rw [hgiven.1]
    rfl
  cases hlimit : flags.limit with
  | error failure =>
    rw [runWith, runWith, hlimits, hlimit]
    exact ⟨rfl, rfl⟩
  | ok limit =>
    rw [runWith_eq_finish _ (hlimits.trans hlimit), runWith_eq_finish _ hlimit]
    have hpath : given.inputPath = some path := by
      rw [Arguments.inputPath, hgiven.1]
      simp [hdash]
    have hnone : flags.inputPath = none := by
      rw [Arguments.inputPath, hgiven.2, Option.filter_none]
    have hfirst : readSource { world with arguments := fileArguments } given limit =
        readFile limit path (.ordinary content) := by
      rw [readSource, hpath, ← hfile]
    have hsecond : readSource { world with arguments := streamArguments, input := stream } flags
        limit = readStream limit stream := by
      rw [readSource, hnone]
    rw [hfirst, hsecond]
    exact finish_sameResult hgiven (readAlike_of_flow hflow hsize limit path) _ _ _ _

/-- A file and a stream that hold the same bytes, as many as 64 bits can count, are read alike under
every limit, and a run on the file and a run without it on the stream have the same result. The file
may stand anywhere among the arguments where it is taken for the input. -/
theorem run_file_sameResult (hflow : stream.flow = ⟨content, .ok .closed⟩)
    (hsize : content.length < UInt64.size) :
    (∀ limit path, ReadAlike limit path content.length (readFile limit path (.ordinary content))
      (readStream limit stream)) ∧
    ∀ (world : World) (before after : List String) (path : String),
      world.files path = .ordinary content → path ≠ "-" → NamesInput before path →
      (∀ failure, parseArguments (before ++ path :: after) ≠ .error (.usage failure)) →
      SameResult (run { world with arguments := before ++ path :: after })
        (run { world with arguments := before ++ after, input := stream }) := by
  refine ⟨readAlike_of_flow hflow hsize, ?_⟩
  intro world before after path hfile hdash hplace haccepted
  have hparsed := parseArguments_insert hplace after
  rw [run, run]
  apply SameResult.behind
  rw [respond, respond]
  dsimp only
  generalize parseArguments (before ++ path :: after) = first at hparsed haccepted
  generalize parseArguments (before ++ after) = second at hparsed
  cases hparsed with
  | refused failure => exact absurd rfl (haccepted failure)
  | stopped stop => exact ⟨rfl, rfl⟩
  | going hgiven => exact runWith_sameResult hflow hsize hfile hdash hgiven _ _

end Runs

/-- A file named behind a flag, and the same bytes on standard input in two pieces, and what becomes
of them. -/
theorem run_file_sameResult_of_json :
    SameResult
      (run ⟨["--json", "f.js"], fun _ ↦ none, fun _ ↦ .ordinary [97, 61, 62, 97], .ofBytes [],
        .accepting, false⟩)
      (run ⟨["--json"], fun _ ↦ none, fun _ ↦ .ordinary [97, 61, 62, 97],
        .ofChunks [[97], [61, 62, 97]], .accepting, false⟩) ∧
    run ⟨["--json"], fun _ ↦ none, fun _ ↦ .ordinary [97, 61, 62, 97],
        .ofChunks [[97], [61, 62, 97]], .accepting, false⟩ =
      .finished 0
        ("\x7b\n  \"shape\": \"arrow\",\n  \"parameters\": [\n    \x7b\n      \"name\": \"a\",\n" ++
          "      \"rest\": false,\n      \"has_default\": false\n    \x7d\n  ]\n\x7d\n").toList
        "" := by
  have hflow : (ByteStream.ofChunks [[97], [61, 62, 97]]).flow = ⟨[97, 61, 62, 97], .ok .closed⟩ :=
    flow_ofChunks _
  have hplace : NamesInput ["--json"] "f.js" := by
    intro reached hreached
    have hflag : ["--json"].foldlM Progress.step {} = .ok ⟨⟨[.json], none, none, none⟩, none,
      false, false⟩ := by decide
    cases hflag.symm.trans hreached
    exact .inr ⟨rfl, by decide⟩
  have haccepted : ∀ failure, parseArguments ["--json", "f.js"] ≠ .error (.usage failure) := by
    intro failure
    have hgiven : parseArguments ["--json", "f.js"] = .ok ⟨[.json], none, none, some "f.js"⟩ := by
      decide
    rw [hgiven]
    exact nofun
  refine ⟨?_, by decide +kernel⟩
  exact (run_file_sameResult hflow (by decide)).2
    ⟨[], fun _ ↦ none, fun _ ↦ .ordinary [97, 61, 62, 97], .ofBytes [], .accepting, false⟩
    ["--json"] [] "f.js" rfl (by decide) hplace haccepted

end DeclaredParams.CommandLine
