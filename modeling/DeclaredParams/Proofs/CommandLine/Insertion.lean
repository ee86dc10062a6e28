import DeclaredParams.Proofs.CommandLine.Position
import Mathlib.Tactic.SplitIfs

/-!
# Arguments with an input and without

An argument that names an input changes nothing in how the arguments around it are read. Two
readings are compared, of the same arguments with an input among them and without it.
`WithInput` relates the positions of the two: what they know once the pending setting is checked
differs in the input alone. One more argument keeps them related (`step_withInput`), and so do any
further ones (`foldlM_withInput`). In the end the two readings differ in the input alone, unless
the one with the input is refused (`parseArguments_insert`).
-/

set_option autoImplicit false
set_option relaxedAutoImplicit false

namespace DeclaredParams.CommandLine

/-! ### Two readings -/

/-- How two readings compare: the first is refused, or both stop for one reason, or both go on and
their results are related. -/
inductive SideBySide {α β : Type} (related : α → β → Prop) :
    Except Stop α → Except Stop β → Prop
  /-- The first is refused. -/
  | refused (failure : UsageError) (second : Except Stop β) :
    SideBySide related (.error (.usage failure)) second
  /-- Both stop. -/
  | stopped (stop : Stop) : SideBySide related (.error stop) (.error stop)
  /-- Both go on. -/
  | going {first : α} {second : β} (hrelated : related first second) :
    SideBySide related (.ok first) (.ok second)

namespace SideBySide

variable {α β γ δ : Type} {related : α → β → Prop} {later : γ → δ → Prop}

/-- Readings that compare are continued in ways that compare. -/
theorem bind {first : Except Stop α} {second : Except Stop β} {next : α → Except Stop γ}
    {following : β → Except Stop δ} (hreadings : SideBySide related first second)
    (hnext : ∀ x y, related x y → SideBySide later (next x) (following y)) :
    SideBySide later (first >>= next) (second >>= following) := by
  cases hreadings with
  | refused failure => exact .refused failure _
  | stopped stop => exact .stopped stop
  | going hrelated => exact hnext _ _ hrelated

/-- Both readings stop where a condition holds. -/
theorem stopIf {condition : Prop} [Decidable condition] {first : Except Stop α}
    {second : Except Stop β} (stop : Stop)
    (hgoing : ¬ condition → SideBySide related first second) :
    SideBySide related (if condition then .error stop else first)
      (if condition then .error stop else second) := by
  split_ifs with hcondition
  · exact .stopped stop
  · exact hgoing hcondition

end SideBySide

/-! ### Values and their checks -/

namespace Arguments

variable {path : String}

/-- The first arguments are the second, which name no input, with an input added. -/
def AddsPath (path : String) (given flags : Arguments) : Prop :=
  given = { flags with path := some path } ∧ flags.path = none

/-- The value of another setting is checked and kept as it would be without the input. -/
theorem assign_addsPath {given flags : Arguments} (hgiven : AddsPath path given flags)
    {setting : Setting} (hsetting : setting ≠ .path) (value : String) :
    SideBySide (AddsPath path) (given.assign setting value) (flags.assign setting value) := by
  obtain ⟨rfl, hpath⟩ := hgiven
  cases setting with
  | path => exact absurd rfl hsetting
  | maxFileSize => exact .stopIf _ fun _ ↦ .going ⟨rfl, hpath⟩
  | color =>
    refine .stopIf _ fun _ ↦ .stopIf _ fun _ ↦ ?_
    cases ColourMode.ofName? value with
    | none => exact .stopped _
    | some mode => exact .going ⟨rfl, hpath⟩

/-- An input is refused if one is there already or the path is empty, and else it is added. -/
theorem assign_path (arguments : Arguments) (path : String) :
    SideBySide (AddsPath path) (arguments.assign .path path) (.ok arguments) := by
  simp only [assign]
  split_ifs with hgiven hempty
  · exact .refused _ _
  · exact .refused _ _
  · exact .going ⟨rfl, Option.not_isSome_iff_eq_none.mp hgiven⟩

end Arguments

/-! ### Positions -/

namespace Progress

variable {path : String} {given flags : Progress}

/-- The positions of two readings, with an input and without, when nothing is pending. -/
structure Settled (path : String) (given flags : Progress) : Prop where
  /-- What is known differs in the input. -/
  arguments : given.arguments.AddsPath path flags.arguments
  /-- Nothing is pending in the reading with the input. -/
  given_pending : given.pending = none
  /-- Nothing is pending in the reading without it. -/
  flags_pending : flags.pending = none
  /-- The input was named. -/
  inputNamed : given.inputNamed = true
  /-- Two dashes were met by both or by neither. -/
  onlyInputs : given.onlyInputs = flags.onlyInputs

/-- The positions of two readings, with an input and without. -/
structure WithInput (path : String) (given flags : Progress) : Prop where
  /-- What is known once the pending setting is checked differs in the input. -/
  checked : SideBySide (Arguments.AddsPath path) given.checked flags.checked
  /-- Both await a value or neither does. -/
  awaiting : given.awaiting? = flags.awaiting?
  /-- Where a value is awaited it is not the input, which is known. -/
  awaited : ∀ setting, flags.awaiting? = some setting →
    setting ≠ .path ∧ given.arguments.AddsPath path flags.arguments
  /-- The input was named. -/
  inputNamed : given.inputNamed = true
  /-- Two dashes were met by both or by neither. -/
  onlyInputs : given.onlyInputs = flags.onlyInputs

theorem Settled.withInput (hsettled : Settled path given flags) : WithInput path given flags where
  checked := by
    rw [Progress.checked, Progress.checked, hsettled.given_pending, hsettled.flags_pending]
    exact .going hsettled.arguments
  awaiting := by rw [awaiting?, awaiting?, hsettled.given_pending, hsettled.flags_pending]
  awaited := by
    intro setting hawaiting
    rw [awaiting?, hsettled.flags_pending] at hawaiting
    cases hawaiting
  inputNamed := hsettled.inputNamed
  onlyInputs := hsettled.onlyInputs

/-! ### One more argument -/

/-- Both check what is pending. -/
theorem settle_withInput (hpositions : WithInput path given flags) :
    SideBySide (Settled path) given.settle flags.settle := by
  rw [settle_eq, settle_eq]
  exact hpositions.checked.bind fun _ _ harguments ↦
    .going ⟨harguments, rfl, rfl, hpositions.inputNamed, hpositions.onlyInputs⟩

/-- Both keep a switch, or neither does. -/
theorem addSwitch_withInput (hsettled : Settled path given flags) (switch : Flag) :
    SideBySide (WithInput path) (given.addSwitch switch) (flags.addSwitch switch) := by
  obtain ⟨harguments, hpath⟩ := hsettled.arguments
  rw [addSwitch, addSwitch, harguments]
  refine .stopIf _ fun _ ↦ .going (Settled.withInput ?_)
  exact ⟨⟨rfl, hpath⟩, hsettled.given_pending, hsettled.flags_pending, hsettled.inputNamed,
    hsettled.onlyInputs⟩

/-- Both meet a flag. -/
theorem flag_withInput (hpositions : WithInput path given flags) (switch : Flag) (long : Bool) :
    SideBySide (WithInput path) (given.flag switch long) (flags.flag switch long) := by
  rw [flag_eq, flag_eq]
  refine (settle_withInput hpositions).bind fun _ _ hsettled ↦ ?_
  cases switch with
  | help => exact .stopped _
  | version => exact .stopped _
  | _ => exact addSwitch_withInput hsettled _

/-- Both meet a setting. -/
theorem setting_withInput (hpositions : WithInput path given flags) {setting : Setting}
    (hsetting : setting ≠ .path) (attached : Option String) :
    SideBySide (WithInput path) (given.setting setting attached)
      (flags.setting setting attached) := by
  refine (settle_withInput hpositions).bind fun first second hsettled ↦ ?_
  cases attached with
  | some value =>
    refine (Arguments.assign_addsPath hsettled.arguments hsetting value).bind
      fun _ _ harguments ↦ .going (Settled.withInput ?_)
    exact ⟨harguments, hsettled.given_pending, hsettled.flags_pending, hsettled.inputNamed,
      hsettled.onlyInputs⟩
  | none =>
    refine .going ⟨.stopped _, rfl, ?_, hsettled.inputNamed, hsettled.onlyInputs⟩
    intro awaited hawaited
    cases hawaited
    exact ⟨hsetting, hsettled.arguments⟩

/-- Both meet an argument that starts with two dashes. -/
theorem long_withInput (hpositions : WithInput path given flags) (name : String)
    (attached : Option String) :
    SideBySide (WithInput path) (given.long name attached) (flags.long name attached) := by
  rw [long, long]
  cases Flag.ofLongName? name with
  | some known =>
    cases attached with
    | some value => exact .stopped _
    | none => exact flag_withInput hpositions known true
  | none =>
    cases hsetting : Setting.ofLongName? name with
    | some known => exact setting_withInput hpositions (ne_path_of_ofLongName? hsetting) _
    | none => exact .stopped _

/-- Both meet letters behind one dash. -/
theorem letters_withInput (hpositions : WithInput path given flags) (text : List Char) :
    SideBySide (WithInput path) (given.letters text) (flags.letters text) := by
  induction text generalizing given flags with
  | nil => exact .going hpositions
  | cons letter rest ih =>
    rw [letters, letters]
    cases Flag.ofLetter? letter with
    | none => exact .stopped _
    | some known => exact (flag_withInput hpositions known false).bind fun _ _ hnext ↦ ih hnext

/-- A second input is refused. -/
theorem secondInput_withInput (hpositions : WithInput path given flags) (argument : String) :
    SideBySide (WithInput path) (given.input argument) (flags.input argument) := by
  rw [input, if_pos hpositions.inputNamed]
  exact .refused _ _

/-- Both meet an argument that is no option. -/
theorem operand_withInput (hpositions : WithInput path given flags) (argument : String) :
    SideBySide (WithInput path) (given.operand argument) (flags.operand argument) := by
  rw [operand, operand, hpositions.awaiting]
  cases hawaiting : flags.awaiting? with
  | none => exact secondInput_withInput hpositions argument
  | some setting =>
    obtain ⟨hsetting, harguments⟩ := hpositions.awaited setting hawaiting
    refine .going ⟨Arguments.assign_addsPath harguments hsetting argument, rfl, ?_,
      hpositions.inputNamed, hpositions.onlyInputs⟩
    intro awaited hawaited
    cases hawaited

/-- Both meet one more argument. -/
theorem step_withInput (hpositions : WithInput path given flags) (argument : String) :
    SideBySide (WithInput path) (given.step argument) (flags.step argument) := by
  rw [step, step, hpositions.onlyInputs]
  by_cases honly : flags.onlyInputs
  · rw [if_pos honly, if_pos honly]
    exact secondInput_withInput hpositions argument
  · rw [if_neg honly, if_neg honly]
    split
    · exact .going ⟨hpositions.checked, hpositions.awaiting, hpositions.awaited,
        hpositions.inputNamed, rfl⟩
    · exact long_withInput hpositions _ _
    · exact letters_withInput hpositions _
    · exact operand_withInput hpositions argument

/-- Both meet further arguments. -/
theorem foldlM_withInput (hpositions : WithInput path given flags) (arguments : List String) :
    SideBySide (WithInput path) (arguments.foldlM step given) (arguments.foldlM step flags) := by
  induction arguments generalizing given flags with
  | nil => exact .going hpositions
  | cons argument arguments ih =>
    rw [List.foldlM_cons, List.foldlM_cons]
    exact (step_withInput hpositions argument).bind fun _ _ hnext ↦ ih hnext

/-! ### The input itself -/

/-- The input is held, unless it is refused. -/
theorem firstInput_withInput (progress : Progress) (path : String) :
    SideBySide (WithInput path) (progress.input path) (.ok progress) := by
  rw [input, settle_eq]
  split_ifs
  · exact .refused _ _
  · cases hchecked : progress.checked with
    | error stop =>
      obtain ⟨failure, rfl⟩ := exists_usage_of_checked hchecked
      exact .refused failure _
    | ok arguments =>
      have hawaiting := awaiting?_of_checked hchecked
      refine .going ⟨?_, hawaiting.symm, ?_, rfl, rfl⟩
      · rw [hchecked]
        exact Arguments.assign_path arguments path
      · intro setting hawaited
        rw [hawaiting] at hawaited
        cases hawaited

end Progress

/-- With an input among them the arguments say the same and name the input, unless they are
refused. -/
theorem parseArguments_insert {before : List String} {path : String}
    (hplace : NamesInput before path) (after : List String) :
    SideBySide (Arguments.AddsPath path) (parseArguments (before ++ path :: after))
      (parseArguments (before ++ after)) := by
  rw [parseArguments, parseArguments, List.foldlM_append, List.foldlM_append]
  cases hreached : before.foldlM Progress.step {} with
  | error stop => exact .stopped stop
  | ok reached =>
    have hrest : SideBySide (Progress.WithInput path) ((path :: after).foldlM Progress.step reached)
        (.ok reached >>= after.foldlM Progress.step) := by
      rw [List.foldlM_cons, Progress.step_eq_input (hplace reached hreached)]
      exact (Progress.firstInput_withInput reached path).bind fun _ _ hpositions ↦
        Progress.foldlM_withInput hpositions after
    exact hrest.bind fun _ _ hpositions ↦
      (Progress.settle_withInput hpositions).bind fun _ _ hsettled ↦ .going hsettled.arguments

end DeclaredParams.CommandLine
