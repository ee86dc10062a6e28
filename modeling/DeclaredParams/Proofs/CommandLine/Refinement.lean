import DeclaredParams.CommandLine.Run
import DeclaredParams.Proofs.CommandLine.Grammar
import DeclaredParams.Proofs.Log.Filter
import DeclaredParams.Proofs.Report.Styled

/-!
# What a run does with its items

The items that the arguments spell say what a run has to do: `limitOf`, `sourceOf`, `shapesOf` and
`reportOf` read that off, and look at the items alone, in whatever order they come. `EndsAs` says
how a run must end: with a message about the size, or else with one about the source, or else with
the report on what an inspection finds, and with nothing besides. There is one such way
(`EndsAs.unique`). What is known of accepted arguments agrees with their items (`given?_eq`,
`mem_flags_iff`), the log is silent unless the environment asks for more (`logText_standard`) and
warns of nothing unless the environment has what it refuses, and so the run ends as it must
(`run_endsAs`).
-/

set_option autoImplicit false
set_option relaxedAutoImplicit false

namespace DeclaredParams.CommandLine

/-! ### What the items ask for -/

/-- The value that the items give to a setting. -/
def givenValue? (items : List Item) (setting : Setting) : Option String :=
  items.findSome? (Item.valueOf? setting)

/-- The limit on the size of an input: the size that is given, or a million bytes. -/
def limitOf (items : List Item) : Except SizeError UInt64 :=
  match givenValue? items .maxFileSize with
  | some size => parseSize size.toList
  | none => .ok 1000000

/-- The source text: that of the file, or of standard input where no path is given or a dash. -/
def sourceOf (world : World) (items : List Item) (limit : UInt64) : Except ReadError Text :=
  match givenValue? items .path with
  | some path =>
    if path = "-" then readStream limit world.input else readFile limit path (world.files path)
  | none => readStream limit world.input

/-- The shapes whose flags are given, or all where no such flag is. -/
def shapesOf (items : List Item) : ShapeSet :=
  let flagged : ShapeSet :=
    { arrowFunction := .switch .arrow ∈ items
      classConstructor := .switch .classConstructor ∈ items
      regularFunction := .switch .regular ∈ items }
  if flagged.anyEnabled then flagged else .all

/-- When to colour the report. -/
def colourModeOf (items : List Item) : ColourMode :=
  ((givenValue? items .color).bind ColourMode.ofName?).getD .auto

/-- The text on a signature: indented JSON and a line feed, or one line for each parameter. -/
def reportOf (world : World) (items : List Item) (signature : Signature) : Text :=
  if .switch .json ∈ items then signature.toPrettyJson ++ ['\n']
  else if coloured (colourModeOf items) world.environment world.toTerminal then
    Report.styled true signature.parameters
  else Report.plain signature.parameters

/-- How a run ends whose arguments spell the items, where standard output accepts what is written and
the log is silent. -/
inductive EndsAs (world : World) (items : List Item) : Outcome → Prop
  /-- The size is no size, whatever the input is. -/
  | sizeRejected {failure : SizeError} (hlimit : limitOf items = .error failure) :
    EndsAs world items (.finished 1 []
      ("argsof: invalid --max-file-size '" ++ (givenValue? items .maxFileSize).getD "" ++ "': " ++
        failure.message ++ "\n"))
  /-- The source cannot be read within the limit. -/
  | readFailed {limit : UInt64} {failure : ReadError} (hlimit : limitOf items = .ok limit)
    (hread : sourceOf world items limit = .error failure) :
    EndsAs world items (.finished 1 [] ("argsof: " ++ failure.message ++ "\n"))
  /-- The source is inspected for the shapes. -/
  | reported {limit : UInt64} {source : Text} (hlimit : limitOf items = .ok limit)
    (hread : sourceOf world items limit = .ok source) :
    EndsAs world items (.finished 0 (reportOf world items (inspect (shapesOf items) source)) "")

/-- The items leave one way to end. -/
theorem EndsAs.unique {world : World} {items : List Item} {first second : Outcome}
    (hfirst : EndsAs world items first) (hsecond : EndsAs world items second) : first = second := by
  cases hfirst with
  | sizeRejected hlimit =>
    cases hsecond with
    | sizeRejected hother =>
      cases hlimit.symm.trans hother
      rfl
    | readFailed hother => cases hlimit.symm.trans hother
    | reported hother => cases hlimit.symm.trans hother
  | readFailed hlimit hread =>
    cases hsecond with
    | sizeRejected hother => cases hlimit.symm.trans hother
    | readFailed hother hfailed =>
      cases hlimit.symm.trans hother
      cases hread.symm.trans hfailed
      rfl
    | reported hother hsource =>
      cases hlimit.symm.trans hother
      cases hread.symm.trans hsource
  | reported hlimit hread =>
    cases hsecond with
    | sizeRejected hother => cases hlimit.symm.trans hother
    | readFailed hother hfailed =>
      cases hlimit.symm.trans hother
      cases hread.symm.trans hfailed
    | reported hother hsource =>
      cases hlimit.symm.trans hother
      cases hread.symm.trans hsource
      rfl

/-! ### What is known of the items -/

section Known

variable {items : List Item} {arguments : Arguments}

theorem given?_eq (htaken : items.foldlM Arguments.take {} = .ok arguments) (setting : Setting) :
    arguments.given? setting = givenValue? items setting := by
  rw [Arguments.given?_of_foldlM htaken]
  cases setting <;> rfl

theorem mem_flags_iff (htaken : items.foldlM Arguments.take {} = .ok arguments) (flag : Flag) :
    flag ∈ arguments.flags ↔ Item.switch flag ∈ items := by
  rw [Arguments.mem_flags_of_foldlM htaken]
  exact or_iff_right List.not_mem_nil

theorem contains_flags (htaken : items.foldlM Arguments.take {} = .ok arguments) (flag : Flag) :
    arguments.flags.contains flag = decide (Item.switch flag ∈ items) := by
  rw [List.contains_eq_mem]
  exact decide_eq_decide.mpr (mem_flags_iff htaken flag)

theorem limit_eq (htaken : items.foldlM Arguments.take {} = .ok arguments) :
    arguments.limit = limitOf items := by
  have hsize : arguments.maxFileSize = givenValue? items .maxFileSize :=
    given?_eq htaken .maxFileSize
  rw [Arguments.limit, limitOf, hsize]
  cases givenValue? items .maxFileSize <;> rfl

theorem sizeComplaint_eq (htaken : items.foldlM Arguments.take {} = .ok arguments)
    (failure : SizeError) :
    sizeComplaint arguments failure =
      "argsof: invalid --max-file-size '" ++ (givenValue? items .maxFileSize).getD "" ++ "': " ++
        failure.message ++ "\n" := by
  have hsize : arguments.maxFileSize = givenValue? items .maxFileSize :=
    given?_eq htaken .maxFileSize
  have hstart : "argsof: " ++ "invalid --max-file-size '" = "argsof: invalid --max-file-size '" := by
    decide +kernel
  rw [sizeComplaint, complaint, hsize, ← hstart]
  simp only [String.append_assoc]

theorem readSource_eq (htaken : items.foldlM Arguments.take {} = .ok arguments) (world : World)
    (limit : UInt64) : readSource world arguments limit = sourceOf world items limit := by
  have hpath : arguments.path = givenValue? items .path := given?_eq htaken .path
  rw [readSource, Arguments.inputPath, sourceOf, hpath]
  cases givenValue? items .path with
  | none => rfl
  | some path =>
    rw [Option.filter_some]
    by_cases hdash : path = "-"
    · simp [hdash]
    · simp [hdash]

theorem shapes_eq (htaken : items.foldlM Arguments.take {} = .ok arguments) :
    arguments.shapes = shapesOf items := by
  rw [Arguments.shapes, Arguments.selection, contains_flags htaken, contains_flags htaken,
    contains_flags htaken, ShapeSet.ofChoice, shapesOf]
  split <;> rfl

theorem colourMode_eq (htaken : items.foldlM Arguments.take {} = .ok arguments) :
    arguments.colourMode = colourModeOf items := by
  have hcolor : arguments.color.map ColourMode.name = givenValue? items .color :=
    given?_eq htaken .color
  rw [Arguments.colourMode, colourModeOf, ← hcolor]
  cases arguments.color with
  | none => rfl
  | some mode =>
    rw [Option.map_some, Option.bind_some, ColourMode.ofName?_name]

theorem report_eq (htaken : items.foldlM Arguments.take {} = .ok arguments) (world : World)
    (signature : Signature) : report world arguments signature = reportOf world items signature := by
  rw [report, reportOf, Arguments.json, contains_flags htaken, colourMode_eq htaken]
  simp only [decide_eq_true_eq]
  cases coloured (colourModeOf items) world.environment world.toTerminal with
  | true => rfl
  | false => rw [Report.styled_false, if_neg Bool.false_ne_true]

end Known

/-! ### The log -/

/-- The standard filter writes nothing of silent records. -/
theorem logText_standard {records : List LogRecord} (hsilent : ∀ record ∈ records, record.Silent) :
    logText .standard records = "" := by
  have hnone : records.filter LogFilter.standard.admits = [] := by
    rw [List.filter_eq_nil_iff]
    intro record hrecord
    rw [hsilent record hrecord]
    exact Bool.false_ne_true
  rw [logText, hnone]
  rfl

theorem silent_readRecords (world : World) (arguments : Arguments) (limit : UInt64) :
    ∀ record ∈ readRecords world arguments limit, record.Silent := by
  intro record hrecord
  rw [readRecords] at hrecord
  split at hrecord
  · split at hrecord
    · obtain rfl := List.mem_singleton.mp hrecord
      exact LogRecord.silent_ofFileRead _ _
    · cases hrecord
  · cases hrecord

theorem silent_runRecords (world : World) (arguments : Arguments) (limit : UInt64) (source : Text) :
    ∀ record ∈ readRecords world arguments limit ++
      LogRecord.ofInspection arguments.shapes source ++
        [.ofResult arguments.shapes (inspect arguments.shapes source).shape], record.Silent := by
  intro record hrecord
  rcases List.mem_append.mp hrecord with hbefore | hresult
  · rcases List.mem_append.mp hbefore with hread | hinspected
    · exact silent_readRecords world arguments limit record hread
    · exact LogRecord.silent_ofInspection _ _ record hinspected
  · obtain rfl := List.mem_singleton.mp hresult
    exact LogRecord.silent_ofResult _ _

/-! ### The run -/

theorem runWith_endsAs {world : World} {items : List Item} {arguments : Arguments}
    (htaken : items.foldlM Arguments.take {} = .ok arguments) (houtput : world.output = .accepting)
    (hlevel : logFilter world.environment = .standard) :
    EndsAs world items (runWith world arguments) := by
  rw [runWith, limit_eq htaken]
  cases hlimit : limitOf items with
  | error failure =>
    dsimp only
    rw [sizeComplaint_eq htaken]
    exact .sizeRejected hlimit
  | ok limit =>
    dsimp only
    rw [hlevel, readSource_eq htaken]
    cases hread : sourceOf world items limit with
    | error failure =>
      dsimp only
      rw [logText_standard (silent_readRecords world arguments limit), String.empty_append]
      exact .readFailed hlimit hread
    | ok source =>
      dsimp only
      rw [logText_standard (silent_runRecords world arguments limit source), deliver, houtput,
        report_eq htaken, shapes_eq htaken]
      exact .reported hlimit hread

/-- Accepted arguments spell items, and the run ends as these items say, if standard output accepts
what is written and the log is set up as it is without a filter in the environment. -/
theorem run_endsAs {world : World} {arguments : Arguments}
    (haccepted : parseArguments world.arguments = .ok arguments)
    (houtput : world.output = .accepting)
    (hlog : logSetup world.environment = .standard) :
    (∃ items, Spells world.arguments items) ∧
    ∀ items, Spells world.arguments items → EndsAs world items (run world) := by
  constructor
  · obtain ⟨items, hspells, -⟩ := parseArguments_eq_ok_iff.mp haccepted
    exact ⟨items, hspells⟩
  · intro items hspells
    have hwarnings : LogSetup.standard.warnings = "" := rfl
    have hlevel : logFilter world.environment = .standard := congrArg LogSetup.filter hlog
    rw [run, respond, haccepted, hlog, hwarnings, Outcome.behind_empty]
    exact runWith_endsAs (foldlM_take_of_spells haccepted hspells) houtput hlevel

/-- A file under a limit, asked for as JSON. -/
theorem run_endsAs_of_json :
    run ⟨["--json", "f.js", "--max-file-size=1K"], fun _ ↦ none, fun _ ↦ .ordinary [97, 61, 62, 97],
        .ofBytes [], .accepting, false⟩ =
      .finished 0
        ("\x7b\n  \"shape\": \"arrow\",\n  \"parameters\": [\n    \x7b\n      \"name\": \"a\",\n" ++
          "      \"rest\": false,\n      \"has_default\": false\n    \x7d\n  ]\n\x7d\n").toList
        "" := by
  let world : World :=
    ⟨["--json", "f.js", "--max-file-size=1K"], fun _ ↦ none, fun _ ↦ .ordinary [97, 61, 62, 97],
      .ofBytes [], .accepting, false⟩
  let items : List Item :=
    [.switch .json, .assignment .path "f.js", .assignment .maxFileSize "1K"]
  have hjson : "--json" = "--" ++ "json" := by decide +kernel
  have hsize : "--max-file-size=1K" = "--" ++ "max-file-size" ++ "=" ++ "1K" := by decide +kernel
  have hspells : Spells ["--json", "f.js", "--max-file-size=1K"] items := by
    rw [hjson, hsize]
    exact .switch rfl ⟨nofun, nofun⟩ (.input (by decide +kernel) (.attached rfl .nil))
  have haccepted : parseArguments world.arguments =
      .ok ⟨[.json], none, some "1K", some "f.js"⟩ := by decide +kernel
  have hlimit : limitOf items = .ok 1024 := by decide +kernel
  have hread : sourceOf world items 1024 = .ok ['a', '=', '>', 'a'] := by decide +kernel
  have hends := (run_endsAs haccepted rfl rfl).2 items hspells
  exact (hends.unique (.reported hlimit hread)).trans (by decide +kernel)

end DeclaredParams.CommandLine
