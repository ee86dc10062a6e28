import DeclaredParams.CommandLine.Arguments

/-!
# Positions between two arguments

What the functions that read one argument do, in the form in which it is used. `settle_eq` and
`flag_eq` separate the check of the pending setting from what comes behind it. `TakesInput` says
which argument is taken for an input, and `step_eq_input` that such an argument is read as one.
-/

set_option autoImplicit false
set_option relaxedAutoImplicit false

namespace DeclaredParams.CommandLine

/-- A reading in two parts that goes on has gone on after the first. -/
theorem exists_of_bind {α β : Type} {reading : Except Stop α} {following : α → Except Stop β}
    {reached : β} (hreached : reading >>= following = .ok reached) :
    ∃ between, reading = .ok between ∧ following between = .ok reached := by
  cases reading with
  | error stop => cases hreached
  | ok between => exact ⟨between, rfl, hreached⟩

/-- Nothing goes on behind a reading that stopped. -/
theorem error_bind_ne_ok {α β : Type} (stop : Stop) (following : α → Except Stop β) (reached : β) :
    (.error stop >>= following) ≠ .ok reached := by
  intro hreached
  cases hreached

/-! ### The pending setting -/

/-- A value that is not kept is refused. -/
theorem Arguments.exists_usage_of_assign {arguments : Arguments} {setting : Setting}
    {value : String} {stop : Stop} (hassign : arguments.assign setting value = .error stop) :
    ∃ failure, stop = .usage failure := by
  cases setting <;> grind [Arguments.assign]

namespace Progress

/-- What is known once the pending setting is checked. -/
def checked (progress : Progress) : Except Stop Arguments :=
  match progress.pending with
  | none => .ok progress.arguments
  | some ⟨setting, none⟩ => .error (.usage (.missingValue setting.shown))
  | some ⟨setting, some value⟩ => progress.arguments.assign setting value

theorem settle_eq (progress : Progress) :
    progress.settle =
      progress.checked >>= fun arguments ↦ .ok { progress with arguments, pending := none } := by
  rw [settle, checked]
  match hpending : progress.pending with
  | none =>
    obtain ⟨arguments, pending, inputNamed, onlyInputs⟩ := progress
    cases hpending
    rfl
  | some ⟨setting, none⟩ => rfl
  | some ⟨setting, some value⟩ => rfl

/-- A pending setting that does not pass its check is refused. -/
theorem exists_usage_of_checked {progress : Progress} {stop : Stop}
    (hchecked : progress.checked = .error stop) : ∃ failure, stop = .usage failure := by
  rw [checked] at hchecked
  split at hchecked
  · cases hchecked
  · exact ⟨_, (Except.error.inj hchecked).symm⟩
  · exact Arguments.exists_usage_of_assign hchecked

/-- No value is awaited where the pending setting passes its check. -/
theorem awaiting?_of_checked {progress : Progress} {arguments : Arguments}
    (hchecked : progress.checked = .ok arguments) : progress.awaiting? = none := by
  rw [awaiting?]
  split
  next setting hpending =>
    rw [checked, hpending] at hchecked
    cases hchecked
  next => rfl

/-! ### Flags -/

/-- The position after a switch, which is refused when it was there before. -/
def addSwitch (settled : Progress) (switch : Flag) : Except Stop Progress :=
  if settled.arguments.flags.contains switch then .error (.usage (.repeated switch.shown))
  else
    .ok { settled with
      arguments := { settled.arguments with flags := switch :: settled.arguments.flags } }

theorem flag_eq (progress : Progress) (switch : Flag) (long : Bool) :
    progress.flag switch long =
      progress.settle >>= fun settled ↦
        match switch with
        | .help => .error (.help long)
        | .version => .error .version
        | _ => settled.addSwitch switch := by
  cases switch <;> rfl

/-! ### The input -/

/-- The input has no long name. -/
theorem ne_path_of_ofLongName? {name : String} {setting : Setting}
    (hname : Setting.ofLongName? name = some setting) : setting ≠ .path := by
  unfold Setting.ofLongName? at hname
  split at hname <;> cases hname <;> decide

/-- An argument with a dash in front and more behind it, which is an option unless two dashes were
met. -/
def isOption (argument : String) : Bool :=
  match argument.toList with
  | '-' :: _ :: _ => true
  | _ => false

/-- The next argument is taken for an input: two dashes were met, or no value is awaited and the
argument is no option. -/
def TakesInput (progress : Progress) (argument : String) : Prop :=
  progress.onlyInputs = true ∨ progress.awaiting? = none ∧ isOption argument = false

theorem step_eq_operand {progress : Progress} {argument : String}
    (honly : ¬ progress.onlyInputs = true) (hoption : isOption argument = false) :
    progress.step argument = progress.operand argument := by
  rw [step, if_neg honly]
  rw [isOption] at hoption
  split
  next htext => simp [htext] at hoption
  next htext => simp [htext] at hoption
  next htext => simp [htext] at hoption
  next => rfl

theorem step_eq_input {progress : Progress} {argument : String}
    (htakes : progress.TakesInput argument) : progress.step argument = progress.input argument := by
  by_cases honly : progress.onlyInputs
  · rw [step, if_pos honly]
  · obtain ⟨hawaiting, hoption⟩ := htakes.resolve_left honly
    rw [step_eq_operand honly hoption, operand, hawaiting]

end Progress

/-- Behind some arguments a further one is taken for an input, if it is reached. -/
def NamesInput (before : List String) (argument : String) : Prop :=
  ∀ reached, before.foldlM Progress.step {} = .ok reached → reached.TakesInput argument

end DeclaredParams.CommandLine
