import DeclaredParams.Proofs.CommandLine.Item
import Mathlib.Data.List.TakeWhile

/-!
# How items are written

`Spells` says how a list of arguments spells items: switches and settings go by their long names,
inputs stand for themselves. A long name and the value attached to it are told apart by the first
equals sign (`splitAttached_equals`), since no long name has one in it (`IsLongName`).
-/

set_option autoImplicit false
set_option relaxedAutoImplicit false

namespace DeclaredParams.CommandLine

/-! ### Written items -/

/-- The arguments spell the items, in order. Flags and settings go by their long names, a value may
be attached to the name of its setting or follow it, and an input stands for itself; behind two
dashes there are only inputs. What follows a name and what names an input is no option. -/
inductive Spells : List String → List Item → Prop
  /-- No arguments spell no items. -/
  | nil : Spells [] []
  /-- The long name of a switch. -/
  | switch {name : String} {flag : Flag} {arguments : List String} {items : List Item}
    (hname : Flag.ofLongName? name = some flag) (hswitch : flag ≠ .help ∧ flag ≠ .version)
    (hrest : Spells arguments items) :
    Spells (("--" ++ name) :: arguments) (.switch flag :: items)
  /-- The long name of a setting, an equals sign and the value. -/
  | attached {name value : String} {setting : Setting} {arguments : List String}
    {items : List Item} (hname : Setting.ofLongName? name = some setting)
    (hrest : Spells arguments items) :
    Spells (("--" ++ name ++ "=" ++ value) :: arguments) (.assignment setting value :: items)
  /-- The long name of a setting, and the value in the next argument. -/
  | detached {name value : String} {setting : Setting} {arguments : List String}
    {items : List Item} (hname : Setting.ofLongName? name = some setting)
    (hvalue : Progress.isOption value = false) (hrest : Spells arguments items) :
    Spells (("--" ++ name) :: value :: arguments) (.assignment setting value :: items)
  /-- An input. -/
  | input {path : String} {arguments : List String} {items : List Item}
    (hpath : Progress.isOption path = false) (hrest : Spells arguments items) :
    Spells (path :: arguments) (.assignment .path path :: items)
  /-- Inputs behind two dashes. -/
  | inputs (paths : List String) :
    Spells ("--" :: paths) (paths.map (Item.assignment .path))

/-! ### Long names -/

section Names

variable {text : List Char} {name value : String}

theorem toList_of_splitAttached_none (hnone : (Progress.splitAttached text).2 = none) :
    text = (Progress.splitAttached text).1.toList := by
  unfold Progress.splitAttached at hnone ⊢
  split at hnone
  · simp
  · cases hnone

theorem toList_of_splitAttached_some (hsome : (Progress.splitAttached text).2 = some value) :
    text = (Progress.splitAttached text).1.toList ++ '=' :: value.toList := by
  unfold Progress.splitAttached at hsome ⊢
  split at hsome
  · cases hsome
  next first behind hbehind =>
    obtain rfl : String.ofList behind = value := Option.some.inj hsome
    have hfirst : first = '=' := by
      have hhead := List.head?_dropWhile_not (fun character ↦ character != '=') text
      rw [hbehind] at hhead
      simpa using hhead
    have htext := List.takeWhile_append_dropWhile (p := fun character ↦ character != '=') (l := text)
    rw [hbehind, hfirst] at htext
    simpa using htext.symm

theorem splitAttached_of_notMem (hname : '=' ∉ name.toList) :
    Progress.splitAttached name.toList = (name, none) := by
  have hplain : ∀ character ∈ name.toList, (character != '=') = true := by
    intro character hmem
    exact bne_iff_ne.mpr (ne_of_mem_of_not_mem hmem hname)
  rw [Progress.splitAttached, List.dropWhile_eq_nil_iff.mpr hplain]
  simp

theorem splitAttached_equals (hname : '=' ∉ name.toList) (value : String) :
    Progress.splitAttached (name.toList ++ '=' :: value.toList) = (name, some value) := by
  have hplain : ∀ character ∈ name.toList, (character != '=') = true := by
    intro character hmem
    exact bne_iff_ne.mpr (ne_of_mem_of_not_mem hmem hname)
  rw [Progress.splitAttached, List.dropWhile_append_of_pos hplain,
    List.takeWhile_append_of_pos hplain]
  simp

/-- A long name is not empty and has no equals sign in it. -/
def IsLongName (name : String) : Prop :=
  name.toList ≠ [] ∧ '=' ∉ name.toList

instance : Decidable (IsLongName name) := inferInstanceAs (Decidable (_ ∧ _))

theorem isLongName_of_flag {flag : Flag} (hname : Flag.ofLongName? name = some flag) :
    IsLongName name := by
  unfold Flag.ofLongName? at hname
  split at hname
  case h_7 => cases hname
  all_goals decide

theorem isLongName_of_setting {setting : Setting}
    (hname : Setting.ofLongName? name = some setting) : IsLongName name := by
  unfold Setting.ofLongName? at hname
  split at hname
  case h_3 => cases hname
  all_goals decide

/-- No name is both that of a setting and that of a flag. -/
theorem ofLongName?_flag_eq_none {setting : Setting}
    (hname : Setting.ofLongName? name = some setting) : Flag.ofLongName? name = none := by
  unfold Setting.ofLongName? at hname
  split at hname
  case h_3 => cases hname
  all_goals rfl

end Names

end DeclaredParams.CommandLine
