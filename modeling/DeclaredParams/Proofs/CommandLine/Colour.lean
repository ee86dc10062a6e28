import DeclaredParams.Proofs.CommandLine.Agreement
import DeclaredParams.Proofs.Report.Styled

/-!
# Whether a report is coloured

The arguments, the environment and the kind of standard output say whether a report should be
coloured, and the environment alone says once more whether it may be. `wantsColour_auto_iff` and
`colourAllowed_eq_false_iff` spell out the two decisions. They do not follow the same rules, and
`ColourWithheld` lists where they part: colour is asked for, always, by the environment or for a
terminal, and the environment names no terminal with styles, or objects to colours that are asked
for always. A report is never coloured against the first decision, and `run_coloured_iff` says of
whole runs that it follows that decision everywhere else.
-/

set_option autoImplicit false
set_option relaxedAutoImplicit false

namespace DeclaredParams.CommandLine

variable {environment : Environment} {mode : ColourMode} {toTerminal : Bool}

/-! ### The two decisions -/

/-- Where the mode leaves it open, no variable may object, and colour is wanted by another one or by
a terminal that does not call itself dumb. -/
theorem wantsColour_auto_iff :
    wantsColour .auto environment toTerminal = true ↔
      environment "NO_COLOR" = none ∧
        (environment "FORCE_COLOR" ≠ none ∨
          environment "TERM" ≠ some dumbTerminal ∧ toTerminal = true) := by
  rw [wantsColour]
  cases environment "NO_COLOR" <;> cases environment "FORCE_COLOR" <;> simp

/-- The environment names no terminal that knows styles. -/
def NamesNoTerminal (environment : Environment) : Prop :=
  environment "TERM" = none ∨ environment "TERM" = some dumbTerminal

theorem colourAllowed_eq_false_iff :
    colourAllowed environment = false ↔
      NamesNoTerminal environment ∨ environment "NO_COLOR" ≠ none := by
  rw [colourAllowed, NamesNoTerminal]
  cases hterminal : environment "TERM" with
  | none => simp
  | some terminal =>
    by_cases hdumb : terminal = dumbTerminal <;> cases environment "NO_COLOR" <;> simp [hdumb]

/-- Where colour is wanted and the report is written without it. -/
inductive ColourWithheld (environment : Environment) (toTerminal : Bool) : ColourMode → Prop
  /-- It is asked for always, and the environment does not allow it. -/
  | always (hforbidden : NamesNoTerminal environment ∨ environment "NO_COLOR" ≠ none) :
    ColourWithheld environment toTerminal .always
  /-- It is asked for by the environment, which names no terminal with styles all the same. -/
  | forced (hopen : environment "NO_COLOR" = none) (hforced : environment "FORCE_COLOR" ≠ none)
    (hforbidden : NamesNoTerminal environment) : ColourWithheld environment toTerminal .auto
  /-- Standard output is a terminal, and the environment names none. -/
  | unnamed (hopen : environment "NO_COLOR" = none) (hterminal : toTerminal = true)
    (hunnamed : environment "TERM" = none) : ColourWithheld environment toTerminal .auto

/-- The decisions part exactly where colour is withheld. -/
theorem colourWithheld_iff :
    ColourWithheld environment toTerminal mode ↔
      wantsColour mode environment toTerminal = true ∧ colourAllowed environment = false := by
  rw [colourAllowed_eq_false_iff]
  constructor
  · rintro (hforbidden | ⟨hopen, hforced, hforbidden⟩ | ⟨hopen, hterminal, hunnamed⟩)
    · exact ⟨rfl, hforbidden⟩
    · exact ⟨wantsColour_auto_iff.mpr ⟨hopen, Or.inl hforced⟩, Or.inl hforbidden⟩
    · refine ⟨wantsColour_auto_iff.mpr ⟨hopen, Or.inr ⟨?_, hterminal⟩⟩, Or.inl (Or.inl hunnamed)⟩
      rw [hunnamed]
      exact (Option.some_ne_none dumbTerminal).symm
  · rintro ⟨hwanted, hforbidden⟩
    cases mode with
    | always => exact .always hforbidden
    | never => cases hwanted
    | auto =>
      obtain ⟨hopen, hreason⟩ := wantsColour_auto_iff.mp hwanted
      have hnames := hforbidden.resolve_right (not_not_intro hopen)
      rcases hreason with hforced | ⟨hknown, hterminal⟩
      · exact .forced hopen hforced hnames
      · exact .unnamed hopen hterminal (hnames.resolve_right hknown)

/-- The report is coloured as wanted unless colour is withheld. -/
theorem coloured_eq_wantsColour_iff :
    coloured mode environment toTerminal = wantsColour mode environment toTerminal ↔
      ¬ ColourWithheld environment toTerminal mode := by
  rw [colourWithheld_iff, coloured]
  cases wantsColour mode environment toTerminal <;> cases colourAllowed environment <;> decide

/-! ### Runs -/

section Runs

variable {world : World} {arguments : Arguments} {limit : UInt64} {source : Text}
  {parameters : List Parameter}

/-- A run that reads its source and reports the parameters as text. -/
theorem run_eq_styled (haccepted : parseArguments world.arguments = .ok arguments)
    (htext : arguments.json = false) (houtput : world.output = .accepting)
    (hlimit : arguments.limit = .ok limit) (hread : readSource world arguments limit = .ok source) :
    ∃ log, run world = .finished successCode
      (Report.styled (coloured arguments.colourMode world.environment world.toTerminal)
        (extract arguments.shapes source)) log := by
  rw [run, respond, haccepted]
  dsimp only
  rw [runWith_eq_finish world hlimit, hread, finish, deliver, houtput, report, htext,
    if_neg Bool.false_ne_true]
  exact ⟨_, rfl⟩

/-- What a run that reports some parameters as text has to do with colours. It writes the report with
all its styles, at least three sequences for each parameter, or with none. It writes them when they
are both wanted and allowed, so the report is coloured as wanted exactly where colour is not
withheld. -/
theorem run_coloured_iff (haccepted : parseArguments world.arguments = .ok arguments)
    (htext : arguments.json = false) (houtput : world.output = .accepting)
    (hlimit : arguments.limit = .ok limit) (hread : readSource world arguments limit = .ok source)
    (hparameters : extract arguments.shapes source = parameters) (hsome : parameters ≠ []) :
    ∃ output log, run world = .finished successCode output log ∧
      (output = Report.styled true parameters ∨ output = Report.plain parameters) ∧
      (Report.plain parameters).count '\x1b' + 3 * parameters.length ≤
        (Report.styled true parameters).count '\x1b' ∧
      (output = Report.styled true parameters ↔
        wantsColour arguments.colourMode world.environment world.toTerminal = true ∧
          colourAllowed world.environment = true) ∧
      ((output = Report.styled true parameters ↔
          wantsColour arguments.colourMode world.environment world.toTerminal = true) ↔
        ¬ ColourWithheld world.environment world.toTerminal arguments.colourMode) := by
  obtain ⟨log, hrun⟩ := run_eq_styled haccepted htext houtput hlimit hread
  rw [hparameters] at hrun
  have hshown :
      Report.styled (coloured arguments.colourMode world.environment world.toTerminal) parameters =
          Report.styled true parameters ↔
        coloured arguments.colourMode world.environment world.toTerminal = true := by
    cases coloured arguments.colourMode world.environment world.toTerminal with
    | true => exact ⟨fun _ ↦ rfl, fun _ ↦ rfl⟩
    | false =>
      rw [Report.styled_false]
      exact ⟨fun hsame ↦ absurd hsame.symm (Report.styled_true_ne_plain hsome), nofun⟩
  refine ⟨_, log, hrun, ?_, Report.count_escape_plain_add_le parameters, ?_, ?_⟩
  · cases coloured arguments.colourMode world.environment world.toTerminal with
    | true => exact Or.inl rfl
    | false => exact Or.inr (Report.styled_false parameters)
  · rw [hshown, coloured, Bool.and_eq_true]
  · rw [hshown, ← Bool.eq_iff_iff, coloured_eq_wantsColour_iff]

end Runs

/-- Colour is asked for always, and where no terminal is named the report is written without it. -/
theorem run_coloured_iff_of_always :
    wantsColour .always (fun _ ↦ none) false = true ∧
    (run ⟨["--color", "always"], fun _ ↦ none, fun _ ↦ .failed (.os .notFound),
      .ofBytes [97, 61, 62, 97], .accepting, false⟩).output = ['a', '\n'] := by
  let asked : World :=
    ⟨["--color", "always"], fun _ ↦ none, fun _ ↦ .failed (.os .notFound), .ofBytes [97, 61, 62, 97],
      .accepting, false⟩
  have haccepted : parseArguments asked.arguments = .ok { color := some .always } := by
    decide +kernel
  have hread : readSource asked { color := some .always } defaultLimit =
      .ok ['a', '=', '>', 'a'] := by decide +kernel
  have hparameters : extract .all ['a', '=', '>', 'a'] = [.plain ['a']] := by decide +kernel
  obtain ⟨output, log, hrun, hforms, -, hcoloured, -⟩ :=
    run_coloured_iff haccepted rfl rfl rfl hread hparameters (List.cons_ne_nil _ _)
  have hplain : output = Report.plain [.plain ['a']] :=
    hforms.resolve_left fun hstyled ↦ Bool.false_ne_true (hcoloured.mp hstyled).2
  refine ⟨rfl, ?_⟩
  change (run asked).output = ['a', '\n']
  rw [hrun, hplain]
  rfl

end DeclaredParams.CommandLine
