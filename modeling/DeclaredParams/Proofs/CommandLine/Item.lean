import DeclaredParams.Proofs.CommandLine.Position
import Mathlib.Tactic.SplitIfs

/-!
# Items of a command line

What arguments say is a sequence of items: switches, and settings with their values.
`Arguments.take` adds one more item to what is known, and refuses it where its switch or its setting
was given before. `given?_of_take` and `mem_flags_of_take` say all that an accepted item changes;
`given?_of_foldlM` and `mem_flags_of_foldlM` say from there what is known after any number of items.
Their order does not matter: no two of them are about one switch or one setting.
-/

set_option autoImplicit false
set_option relaxedAutoImplicit false

namespace DeclaredParams.CommandLine

/-- What one argument says, or two of which the second is a value. -/
inductive Item where
  /-- A flag is given. -/
  | switch (flag : Flag)
  /-- A setting is given a value. -/
  | assignment (setting : Setting) (value : String)
  deriving DecidableEq, Repr

/-- The value that an item gives to a setting. -/
def Item.valueOf? (setting : Setting) : Item → Option String
  | .switch _ => none
  | .assignment given value => if given = setting then some value else none

/-- The name of a mode. -/
def ColourMode.name : ColourMode → String
  | .auto => "auto"
  | .always => "always"
  | .never => "never"

theorem ColourMode.ofName?_name (mode : ColourMode) : ColourMode.ofName? mode.name = some mode := by
  cases mode <;> rfl

theorem ColourMode.name_of_ofName? {name : String} {mode : ColourMode}
    (hname : ColourMode.ofName? name = some mode) : mode.name = name := by
  unfold ColourMode.ofName? at hname
  split at hname <;> cases hname <;> rfl

namespace Arguments

variable {known next result : Arguments} {item : Item} {items : List Item}

/-- What is known after one more item. A switch or a setting that was given before is refused, and
so is a value that does not suit its setting. -/
def take (known : Arguments) : Item → Except Stop Arguments
  | .switch flag =>
    if known.flags.contains flag then .error (.usage (.repeated flag.shown))
    else .ok { known with flags := flag :: known.flags }
  | .assignment setting value => known.assign setting value

/-- The value that is known of a setting. -/
def given? (known : Arguments) : Setting → Option String
  | .color => known.color.map ColourMode.name
  | .maxFileSize => known.maxFileSize
  | .path => known.path

/-! ### One item -/

/-- An accepted value is that of its setting, which had none. -/
theorem given?_of_assign {setting : Setting} {value : String}
    (hassign : known.assign setting value = .ok next) (other : Setting) :
    next.given? other =
      (known.given? other).or (Item.valueOf? other (.assignment setting value)) := by
  have hown : known.given? setting = none ∧ next.given? setting = some value := by
    cases setting <;>
      grind [assign, given?, ColourMode.name_of_ofName?, Option.isSome_iff_ne_none]
  have hothers : setting ≠ other → next.given? other = known.given? other := by
    cases setting <;> cases other <;> grind [assign, given?]
  rw [Item.valueOf?]
  split_ifs with hsame
  · subst hsame
    rw [hown.1, hown.2, Option.none_or]
  · rw [hothers hsame, Option.or_none]

/-- An accepted item gives a value to its own setting, which had none. -/
theorem given?_of_take (htake : known.take item = .ok next) (setting : Setting) :
    next.given? setting = (known.given? setting).or (item.valueOf? setting) := by
  cases item with
  | assignment given value => exact given?_of_assign htake setting
  | switch flag =>
    rw [take] at htake
    split_ifs at htake
    cases htake
    rw [Item.valueOf?, Option.or_none]
    rfl

theorem flags_of_assign {setting : Setting} {value : String}
    (hassign : known.assign setting value = .ok next) : next.flags = known.flags := by
  cases setting <;> grind [assign]

/-- An accepted item adds its own switch to the flags. -/
theorem mem_flags_of_take (htake : known.take item = .ok next) (flag : Flag) :
    flag ∈ next.flags ↔ flag ∈ known.flags ∨ Item.switch flag = item := by
  cases item with
  | assignment given value =>
    rw [flags_of_assign htake, or_iff_left Item.noConfusion]
  | switch added =>
    rw [take] at htake
    split_ifs at htake
    cases htake
    rw [List.mem_cons, or_comm, Item.switch.injEq]

/-! ### Any number of items -/

theorem foldlM_ne_ok_of_take {stop : Stop} (hrefused : known.take item = .error stop)
    (items : List Item) : (item :: items).foldlM take known ≠ .ok result := by
  rw [List.foldlM_cons, hrefused]
  exact error_bind_ne_ok stop _ result

theorem given?_of_foldlM (htaken : items.foldlM take known = .ok result) (setting : Setting) :
    result.given? setting =
      (known.given? setting).or (items.findSome? (Item.valueOf? setting)) := by
  induction items generalizing known with
  | nil =>
    cases htaken
    rw [List.findSome?_nil, Option.or_none]
  | cons item items ih =>
    rw [List.foldlM_cons] at htaken
    obtain ⟨next, htake, hrest⟩ := exists_of_bind htaken
    rw [ih hrest, given?_of_take htake, Option.or_assoc, List.findSome?_cons]
    cases item.valueOf? setting <;> rfl

theorem mem_flags_of_foldlM (htaken : items.foldlM take known = .ok result) (flag : Flag) :
    flag ∈ result.flags ↔ flag ∈ known.flags ∨ Item.switch flag ∈ items := by
  induction items generalizing known with
  | nil =>
    cases htaken
    exact (or_iff_left List.not_mem_nil).symm
  | cons item items ih =>
    rw [List.foldlM_cons] at htaken
    obtain ⟨next, htake, hrest⟩ := exists_of_bind htaken
    rw [ih hrest, mem_flags_of_take htake, List.mem_cons, or_assoc]

end Arguments

end DeclaredParams.CommandLine
