import DeclaredParams.Proofs.CommandLine.Spelling

/-!
# Accepted arguments and their items

The reading looks at one argument at a time and holds a value back until the next item begins;
`Leads` relates its positions to the items that are still to come. A reading that reaches the end
has read arguments that spell some items, and has taken these one by one (`leads_of_finish`).
Conversely, whatever items the arguments spell, the reading ends as the items say
(`finish_iff_of_spells`). `parseArguments_eq_ok_iff` puts the two together.
-/

set_option autoImplicit false
set_option relaxedAutoImplicit false

namespace DeclaredParams.CommandLine

/-! ### One argument -/

namespace Progress

variable {progress next : Progress} {known result : Arguments} {argument name value : String}
  {arguments : List String}

/-- What is known once the remaining arguments are read. -/
def finish (progress : Progress) (arguments : List String) : Except Stop Arguments :=
  arguments.foldlM step progress >>= checked

theorem finish_nil (progress : Progress) : progress.finish [] = progress.checked := rfl

theorem finish_cons (progress : Progress) (argument : String) (arguments : List String) :
    progress.finish (argument :: arguments) =
      progress.step argument >>= fun next ↦ next.finish arguments := by
  rw [finish, List.foldlM_cons, bind_assoc]
  rfl

theorem finish_cons_of_step (hstep : progress.step argument = .ok next) :
    progress.finish (argument :: arguments) = next.finish arguments := by
  rw [finish_cons, hstep]
  rfl

theorem settle_of_checked (hchecked : progress.checked = .ok known) :
    progress.settle = .ok { progress with arguments := known, pending := none } := by
  rw [settle_eq, hchecked]
  rfl

/-- What comes behind the check of the pending setting is reached only if the check is passed. -/
theorem exists_of_settle {following : Progress → Except Stop Progress}
    (hnext : progress.settle >>= following = .ok next) :
    ∃ known, progress.checked = .ok known ∧
      following { progress with arguments := known, pending := none } = .ok next := by
  rw [settle_eq, bind_assoc] at hnext
  exact exists_of_bind hnext

theorem step_dashes (hfree : progress.onlyInputs = false) :
    progress.step "--" = .ok { progress with onlyInputs := true } := by
  rw [step, hfree]
  rfl

theorem step_long {text : List Char} (hfree : progress.onlyInputs = false)
    (hargument : argument.toList = '-' :: '-' :: text) (htext : text ≠ []) :
    progress.step argument = progress.long (splitAttached text).1 (splitAttached text).2 := by
  obtain ⟨first, behind, rfl⟩ := List.exists_cons_of_ne_nil htext
  rw [step, hfree, hargument]
  rfl

/-- Letters behind one dash always stop the reading. -/
theorem letters_ne_ok (letter : Char) (rest : List Char) :
    progress.letters (letter :: rest) ≠ .ok next := by
  intro hnext
  rw [letters] at hnext
  split at hnext
  next switch hswitch =>
    have hflag : ∀ between, progress.flag switch false ≠ .ok between := by
      intro between hbetween
      rw [flag_eq] at hbetween
      obtain ⟨known, -, hstop⟩ := exists_of_settle hbetween
      unfold Flag.ofLetter? at hswitch
      split at hswitch <;> cases hswitch <;> cases hstop
    obtain ⟨between, hbetween, -⟩ := exists_of_bind hnext
    exact hflag between hbetween
  next => cases hnext

/-! ### From positions to items -/

/-- From a position the remaining arguments lead to a result: they spell items which, taken one by
one from what is known on, give the result. Where a value is awaited, the first argument is that
value; behind two dashes all arguments are inputs. -/
inductive Leads (result : Arguments) (progress : Progress) : List String → Prop
  /-- No value is awaited. -/
  | known {known : Arguments} {arguments : List String} {items : List Item}
    (hfree : progress.onlyInputs = false) (hknown : progress.checked = .ok known)
    (hspells : Spells arguments items) (hresult : items.foldlM Arguments.take known = .ok result) :
    Leads result progress arguments
  /-- The value of a setting is awaited. -/
  | awaiting {setting : Setting} {value : String} {known : Arguments} {arguments : List String}
    {items : List Item} (hfree : progress.onlyInputs = false)
    (hpending : progress.pending = some ⟨setting, none⟩) (hvalue : isOption value = false)
    (hknown : progress.arguments.assign setting value = .ok known)
    (hspells : Spells arguments items) (hresult : items.foldlM Arguments.take known = .ok result) :
    Leads result progress (value :: arguments)
  /-- Two dashes were met. -/
  | inputs {known : Arguments} {paths : List String} (honly : progress.onlyInputs = true)
    (hknown : progress.checked = .ok known)
    (hresult : (paths.map (Item.assignment .path)).foldlM Arguments.take known = .ok result) :
    Leads result progress paths

/-- An argument that spells an item by itself. -/
theorem leads_of_take {item : Item} (hnext : Leads result next arguments)
    (hfree : progress.onlyInputs = false) (hknown : progress.checked = .ok known)
    (hspells : ∀ items, Spells arguments items → Spells (argument :: arguments) (item :: items))
    (htaken : next.checked = known.take item) (hawaiting : next.awaiting? = none)
    (hsame : next.onlyInputs = progress.onlyInputs) :
    Leads result progress (argument :: arguments) := by
  cases hnext with
  | known _ hchecked hrest hresult =>
    refine .known hfree hknown (hspells _ hrest) ?_
    rw [List.foldlM_cons, ← htaken, hchecked]
    exact hresult
  | awaiting _ hpending =>
    rw [awaiting?, hpending] at hawaiting
    cases hawaiting
  | inputs honly =>
    rw [hsame, hfree] at honly
    cases honly

theorem leads_flag {flag : Flag} (hfree : progress.onlyInputs = false)
    (hname : Flag.ofLongName? name = some flag) (hstep : progress.flag flag true = .ok next)
    (hnext : Leads result next arguments) :
    Leads result progress (("--" ++ name) :: arguments) := by
  rw [flag_eq] at hstep
  obtain ⟨known, hknown, hadded⟩ := exists_of_settle hstep
  have hswitch : flag ≠ .help ∧ flag ≠ .version := by
    constructor
    · rintro rfl
      cases hadded
    · rintro rfl
      cases hadded
  have hnew : addSwitch { progress with arguments := known, pending := none } flag = .ok next := by
    cases flag with
    | help => cases hadded
    | version => cases hadded
    | _ => exact hadded
  rw [addSwitch] at hnew
  split at hnew
  next => cases hnew
  next hfirst =>
    cases hnew
    refine leads_of_take hnext hfree hknown (fun items ↦ .switch hname hswitch) ?_ rfl rfl
    rw [Arguments.take, if_neg hfirst]
    rfl

theorem leads_setting {setting : Setting} {attached : Option String}
    (hfree : progress.onlyInputs = false) (hname : Setting.ofLongName? name = some setting)
    (hargument : argument = match attached with
      | some value => "--" ++ name ++ "=" ++ value
      | none => "--" ++ name)
    (hstep : progress.setting setting attached = .ok next) (hnext : Leads result next arguments) :
    Leads result progress (argument :: arguments) := by
  subst hargument
  obtain ⟨known, hknown, hgiven⟩ := exists_of_settle hstep
  cases attached with
  | some value =>
    obtain ⟨assigned, hassigned, hreached⟩ := exists_of_bind hgiven
    cases hreached
    exact leads_of_take hnext hfree hknown (fun items ↦ .attached hname) hassigned.symm rfl rfl
  | none =>
    cases hgiven
    cases hnext with
    | known _ hchecked => cases hchecked
    | awaiting _ hpending hvalue hassigned hrest hresult =>
      cases hpending
      refine .known hfree hknown (.detached hname hvalue hrest) ?_
      rw [List.foldlM_cons, Arguments.take, hassigned]
      exact hresult
    | inputs honly => exact absurd (hfree.symm.trans honly) Bool.false_ne_true

theorem leads_long {text : List Char} (hfree : progress.onlyInputs = false)
    (hargument : argument.toList = '-' :: '-' :: text)
    (hstep : progress.long (splitAttached text).1 (splitAttached text).2 = .ok next)
    (hnext : Leads result next arguments) : Leads result progress (argument :: arguments) := by
  have hnone (hattached : (splitAttached text).2 = none) :
      argument = "--" ++ (splitAttached text).1 := by
    apply String.toList_injective
    rw [hargument, String.toList_append, ← toList_of_splitAttached_none hattached]
    rfl
  have hsome {value : String} (hattached : (splitAttached text).2 = some value) :
      argument = "--" ++ (splitAttached text).1 ++ "=" ++ value := by
    apply String.toList_injective
    simpa [hargument] using toList_of_splitAttached_some hattached
  rw [long] at hstep
  split at hstep
  next flag hname =>
    split at hstep
    next => cases hstep
    next hattached =>
      rw [hnone hattached]
      exact leads_flag hfree hname hstep hnext
  next setting hname =>
    refine leads_setting hfree hname ?_ hstep hnext
    split
    next value hattached => exact hsome hattached
    next hattached => exact hnone hattached
  next => cases hstep

/-- An argument that names an input, whether or not two dashes were met. -/
theorem exists_of_input (hstep : progress.input argument = .ok next) :
    ∃ known, progress.checked = .ok known ∧ next.checked = known.take (.assignment .path argument) ∧
      next.awaiting? = none ∧ next.onlyInputs = progress.onlyInputs := by
  rw [input] at hstep
  split at hstep
  next => cases hstep
  next =>
    obtain ⟨known, hknown, hnamed⟩ := exists_of_settle hstep
    cases hnamed
    exact ⟨known, hknown, rfl, rfl, rfl⟩

theorem leads_operand (hfree : progress.onlyInputs = false) (hargument : isOption argument = false)
    (hstep : progress.operand argument = .ok next) (hnext : Leads result next arguments) :
    Leads result progress (argument :: arguments) := by
  rw [operand] at hstep
  split at hstep
  next setting hawaiting =>
    cases hstep
    have hpending : progress.pending = some ⟨setting, none⟩ := by
      rw [awaiting?] at hawaiting
      split at hawaiting
      next hpending => rw [hpending, Option.some.inj hawaiting]
      next => cases hawaiting
    cases hnext with
    | known _ hchecked hrest hresult =>
      exact .awaiting hfree hpending hargument hchecked hrest hresult
    | awaiting _ hother => cases hother
    | inputs honly => exact absurd (hfree.symm.trans honly) Bool.false_ne_true
  next hawaiting =>
    obtain ⟨known, hknown, htaken, hnone, hsame⟩ := exists_of_input hstep
    exact leads_of_take hnext hfree hknown (fun items ↦ .input hargument) htaken hnone hsame

/-- One argument more in front. -/
theorem leads_cons (hstep : progress.step argument = .ok next)
    (hnext : Leads result next arguments) : Leads result progress (argument :: arguments) := by
  cases honly : progress.onlyInputs with
  | true =>
    -- Two dashes stay in force, so of the ways to go on only that of inputs is left.
    rw [step, if_pos honly] at hstep
    obtain ⟨known, hknown, htaken, hnone, hsame⟩ := exists_of_input hstep
    cases hnext with
    | known hfree => exact absurd (hfree.symm.trans (hsame.trans honly)) Bool.false_ne_true
    | awaiting hfree => exact absurd (hfree.symm.trans (hsame.trans honly)) Bool.false_ne_true
    | inputs _ hchecked hresult =>
      refine .inputs honly hknown ?_
      rw [List.map_cons, List.foldlM_cons, ← htaken, hchecked]
      exact hresult
  | false =>
    have hfree : ¬ progress.onlyInputs = true := Bool.not_eq_true _ ▸ honly
    cases hoption : isOption argument with
    | false =>
      rw [step_eq_operand hfree hoption] at hstep
      exact leads_operand honly hoption hstep hnext
    | true =>
      rw [step, if_neg hfree] at hstep
      split at hstep
      next hdashes =>
        cases hstep
        obtain rfl : argument = "--" := String.toList_injective hdashes
        cases hnext with
        | known hfree => cases hfree
        | awaiting hfree => cases hfree
        | inputs _ hchecked hresult => exact .known honly hchecked (.inputs _) hresult
      next text _ hlong => exact leads_long honly hlong hstep hnext
      next => exact absurd hstep (letters_ne_ok _ _)
      next hother =>
        unfold isOption at hoption
        split at hoption
        next letter rest htext => exact absurd htext (hother letter rest)
        next => cases hoption

/-- A reading that reaches the end leads to its result. -/
theorem leads_of_finish (hfinish : progress.finish arguments = .ok result) :
    Leads result progress arguments := by
  induction arguments generalizing progress with
  | nil =>
    cases honly : progress.onlyInputs with
    | true => exact .inputs honly hfinish rfl
    | false => exact .known honly hfinish .nil rfl
  | cons argument arguments ih =>
    rw [finish_cons] at hfinish
    obtain ⟨next, hstep, hrest⟩ := exists_of_bind hfinish
    exact leads_cons hstep (ih hrest)

/-! ### From items to positions -/

/-- What is known at a position, once the pending setting is checked; it tells whether an input was
named. -/
structure Knows (progress : Progress) (known : Arguments) : Prop where
  /-- The pending setting passes its check. -/
  checked : progress.checked = .ok known
  /-- An input was named exactly if one is known. -/
  inputNamed : progress.inputNamed = known.path.isSome

/-- The argument at hand has brought the reading to a position where all that is left to do about an
item is to check it. -/
theorem finish_iff_of_taken {item : Item} {items : List Item}
    (htaken : next.checked = known.take item) (hawaiting : next.awaiting? = none)
    (hnamed : ∀ taken, known.take item = .ok taken → next.inputNamed = taken.path.isSome)
    (hrest : ∀ taken, next.Knows taken →
      (next.finish arguments = .ok result ↔ items.foldlM Arguments.take taken = .ok result)) :
    next.finish arguments = .ok result ↔
      (item :: items).foldlM Arguments.take known = .ok result := by
  cases htake : known.take item with
  | ok taken =>
    rw [List.foldlM_cons, htake]
    exact hrest taken ⟨htaken.trans htake, hnamed taken htake⟩
  | error stop =>
    -- The refused value may still be held back, so the reading does not stop here but later.
    have hchecked : next.checked = .error stop := htaken.trans htake
    refine iff_of_false (fun hfinish ↦ ?_) (Arguments.foldlM_ne_ok_of_take htake items)
    cases leads_of_finish hfinish with
    | known _ hpassed => cases hchecked.symm.trans hpassed
    | awaiting _ hpending =>
      rw [awaiting?, hpending] at hawaiting
      cases hawaiting
    | inputs _ hpassed => cases hchecked.symm.trans hpassed

theorem input_iff_of_knows {path : String} {items : List Item} (hknows : progress.Knows known)
    (hrest : ∀ (next : Progress) (taken : Arguments), next.onlyInputs = progress.onlyInputs →
      next.Knows taken →
      (next.finish arguments = .ok result ↔ items.foldlM Arguments.take taken = .ok result)) :
    (progress.input path >>= fun next ↦ finish next arguments) = .ok result ↔
      (Item.assignment .path path :: items).foldlM Arguments.take known = .ok result := by
  rw [input, hknows.inputNamed]
  cases hpath : known.path with
  | some earlier =>
    have hrefused : known.take (.assignment .path path) =
        .error (.usage (.repeated Setting.path.shown)) := by
      rw [Arguments.take, Arguments.assign, hpath]
      rfl
    exact iff_of_false (error_bind_ne_ok _ _ result)
      (Arguments.foldlM_ne_ok_of_take hrefused items)
  | none =>
    rw [settle_of_checked hknows.checked]
    refine finish_iff_of_taken rfl rfl ?_ fun taken ↦ hrest _ taken rfl
    intro taken htake
    have hgiven : taken.path = known.path.or (some path) := Arguments.given?_of_take htake .path
    rw [hgiven, hpath]
    rfl

/-- Behind two dashes the remaining arguments are taken as inputs. -/
theorem finish_inputs_iff {paths : List String} (honly : progress.onlyInputs = true)
    (hknows : progress.Knows known) :
    progress.finish paths = .ok result ↔
      (paths.map (Item.assignment .path)).foldlM Arguments.take known = .ok result := by
  induction paths generalizing progress known with
  | nil =>
    rw [finish_nil, hknows.checked]
    rfl
  | cons path paths ih =>
    rw [finish_cons, step, if_pos honly]
    exact input_iff_of_knows hknows fun next taken hsame hnext ↦ ih (hsame.trans honly) hnext

theorem step_switch {flag : Flag} (hfree : progress.onlyInputs = false)
    (hname : Flag.ofLongName? name = some flag) (hswitch : flag ≠ .help ∧ flag ≠ .version)
    (hchecked : progress.checked = .ok known) :
    progress.step ("--" ++ name) =
      addSwitch { progress with arguments := known, pending := none } flag := by
  obtain ⟨hsome, hplain⟩ := isLongName_of_flag hname
  rw [step_long hfree String.toList_append hsome, splitAttached_of_notMem hplain, long, hname]
  dsimp only
  rw [flag_eq, settle_of_checked hchecked]
  cases flag with
  | help => exact absurd rfl hswitch.1
  | version => exact absurd rfl hswitch.2
  | _ => rfl

theorem step_attached {setting : Setting} (hfree : progress.onlyInputs = false)
    (hname : Setting.ofLongName? name = some setting) (hchecked : progress.checked = .ok known)
    (value : String) :
    progress.step ("--" ++ name ++ "=" ++ value) =
      known.assign setting value >>= fun assigned ↦
        .ok { progress with arguments := assigned, pending := none } := by
  obtain ⟨hsome, hplain⟩ := isLongName_of_setting hname
  have hargument : ("--" ++ name ++ "=" ++ value).toList =
      '-' :: '-' :: (name.toList ++ '=' :: value.toList) := by
    simp
  rw [step_long hfree hargument (by simp), splitAttached_equals hplain, long, hname,
    ofLongName?_flag_eq_none hname]
  dsimp only
  rw [Progress.setting, settle_of_checked hchecked]
  rfl

theorem step_detached {setting : Setting} (hfree : progress.onlyInputs = false)
    (hname : Setting.ofLongName? name = some setting) (hchecked : progress.checked = .ok known) :
    progress.step ("--" ++ name) =
      .ok { progress with arguments := known, pending := some ⟨setting, none⟩ } := by
  obtain ⟨hsome, hplain⟩ := isLongName_of_setting hname
  rw [step_long hfree String.toList_append hsome, splitAttached_of_notMem hplain, long, hname,
    ofLongName?_flag_eq_none hname]
  dsimp only
  rw [Progress.setting, settle_of_checked hchecked]
  rfl

/-- An argument that is no option is taken for the value that is awaited. -/
theorem step_value {setting : Setting} (hfree : progress.onlyInputs = false)
    (hvalue : isOption value = false) (hawaiting : progress.awaiting? = some setting) :
    progress.step value = .ok { progress with pending := some ⟨setting, some value⟩ } := by
  rw [step_eq_operand (Bool.not_eq_true _ ▸ hfree) hvalue, operand, hawaiting]

/-- The name of a setting and its value behind it, which is not checked yet. -/
theorem finish_detached {setting : Setting} (hfree : progress.onlyInputs = false)
    (hname : Setting.ofLongName? name = some setting) (hchecked : progress.checked = .ok known)
    (hvalue : isOption value = false) :
    progress.finish (("--" ++ name) :: value :: arguments) =
      finish { progress with arguments := known, pending := some ⟨setting, some value⟩ }
        arguments := by
  rw [finish_cons_of_step (step_detached hfree hname hchecked)]
  exact finish_cons_of_step (step_value hfree hvalue rfl)

/-- An item that is no input does not change whether one was named. -/
theorem Knows.inputNamed_of_take {item : Item} {taken : Arguments} (hknows : progress.Knows known)
    (hitem : item.valueOf? .path = none) (htake : known.take item = .ok taken) :
    progress.inputNamed = taken.path.isSome := by
  have hpath : taken.path = known.path.or (item.valueOf? .path) :=
    Arguments.given?_of_take htake .path
  rw [hpath, hitem, Option.or_none]
  exact hknows.inputNamed

/-- Whatever items the remaining arguments spell, the reading ends as the items say. -/
theorem finish_iff_of_spells {items : List Item} (hspells : Spells arguments items)
    (hfree : progress.onlyInputs = false) (hknows : progress.Knows known) :
    progress.finish arguments = .ok result ↔ items.foldlM Arguments.take known = .ok result := by
  -- `Knows` is the invariant: it fixes a position up to the value that is held back.
  induction hspells generalizing progress known with
  | nil =>
    rw [finish_nil, hknows.checked]
    rfl
  | @switch name flag arguments items hname hswitch hrest ih =>
    rw [finish_cons, step_switch hfree hname hswitch hknows.checked, addSwitch]
    by_cases hrepeated : known.flags.contains flag
    · have hrefused : known.take (.switch flag) = .error (.usage (.repeated flag.shown)) :=
        if_pos hrepeated
      rw [if_pos hrepeated]
      exact iff_of_false (error_bind_ne_ok _ _ result)
        (Arguments.foldlM_ne_ok_of_take hrefused items)
    · rw [if_neg hrepeated]
      refine finish_iff_of_taken ?_ rfl ?_ fun taken hnext ↦ ih hfree hnext
      · rw [Arguments.take, if_neg hrepeated]
        rfl
      · intro taken htake
        exact (hknows.inputNamed_of_take rfl htake :)
  | @attached name value setting arguments items hname hrest ih =>
    have hitem : (Item.assignment setting value).valueOf? .path = none :=
      if_neg (ne_path_of_ofLongName? hname)
    rw [finish_cons, step_attached hfree hname hknows.checked]
    cases hassign : known.assign setting value with
    | error stop =>
      have hrefused : known.take (.assignment setting value) = .error stop := hassign
      exact iff_of_false (error_bind_ne_ok _ _ result)
        (Arguments.foldlM_ne_ok_of_take hrefused items)
    | ok assigned =>
      refine finish_iff_of_taken hassign.symm rfl ?_ fun taken hnext ↦ ih hfree hnext
      intro taken htake
      exact (hknows.inputNamed_of_take hitem htake :)
  | @detached name value setting arguments items hname hvalue hrest ih =>
    have hitem : (Item.assignment setting value).valueOf? .path = none :=
      if_neg (ne_path_of_ofLongName? hname)
    rw [finish_detached hfree hname hknows.checked hvalue]
    refine finish_iff_of_taken rfl rfl ?_ fun taken hnext ↦ ih hfree hnext
    intro taken htake
    exact (hknows.inputNamed_of_take hitem htake :)
  | @input path arguments items hpath hrest ih =>
    have hstep : progress.step path = progress.input path :=
      step_eq_input (.inr ⟨awaiting?_of_checked hknows.checked, hpath⟩)
    rw [finish_cons, hstep]
    exact input_iff_of_knows hknows fun next taken hsame hnext ↦ ih (hsame.trans hfree) hnext
  | inputs paths =>
    rw [finish_cons_of_step (step_dashes hfree)]
    have hnext : Knows { progress with onlyInputs := true } known :=
      ⟨hknows.checked, hknows.inputNamed⟩
    exact finish_inputs_iff rfl hnext

end Progress

/-! ### All arguments -/

theorem parseArguments_eq_finish (arguments : List String) :
    parseArguments arguments = Progress.finish {} arguments := by
  rw [parseArguments, Progress.finish]
  congr 1
  funext progress
  rw [Progress.settle_eq]
  cases progress.checked <;> rfl

theorem knows_nothing : Progress.Knows {} {} := ⟨rfl, rfl⟩

/-- Arguments are accepted exactly if they spell items that can be taken one by one, and then what
is known is what these items say. -/
theorem parseArguments_eq_ok_iff {arguments : List String} {result : Arguments} :
    parseArguments arguments = .ok result ↔
      ∃ items, Spells arguments items ∧ items.foldlM Arguments.take {} = .ok result := by
  rw [parseArguments_eq_finish]
  constructor
  · intro hfinish
    cases Progress.leads_of_finish hfinish with
    | known _ hknown hspells hresult =>
      cases hknown
      exact ⟨_, hspells, hresult⟩
    | awaiting _ hpending => cases hpending
    | inputs honly => cases honly
  · rintro ⟨items, hspells, hresult⟩
    exact (Progress.finish_iff_of_spells hspells rfl knows_nothing).mpr hresult

/-- Accepted arguments say the same however their items are read off. -/
theorem foldlM_take_of_spells {arguments : List String} {result : Arguments} {items : List Item}
    (haccepted : parseArguments arguments = .ok result) (hspells : Spells arguments items) :
    items.foldlM Arguments.take {} = .ok result := by
  rw [parseArguments_eq_finish] at haccepted
  exact (Progress.finish_iff_of_spells hspells rfl knows_nothing).mp haccepted

end DeclaredParams.CommandLine
