import DeclaredParams.Proofs.Parameter.Token
import Mathlib.Data.List.Basic

/-!
# Written parameter lists

An `Item` is a parameter as it is written down: a name, a name with a default value, or a name with
the rest marker. Names and values carry what makes them readable, so every list of items can be
written (`writtenList`) and every written list is read back as the parameters of its items
(`tokenParameters_writtenList`, `parseParameterList_writtenList`). What a written list does not hold
follows from its values alone (`not_mem_writtenList`, `not_pair_isInfix_writtenList`), since names
and separators hold none of the characters that end a list or divide a declaration.
-/

set_option autoImplicit false
set_option relaxedAutoImplicit false

namespace DeclaredParams

open Text

/-! ### Names, values and items -/

/-- A character may stand in a name when it is no blank and none of the characters that have a
meaning of their own in a list. -/
def isNameCharacter (character : Char) : Bool :=
  !isBlank character && !([',', '=', '(', ')', '/', '.'].contains character)

/-- A name of a parameter. -/
structure WrittenName where
  /-- The characters of the name. -/
  text : Text
  ne_nil : text ≠ []
  isNameCharacter_of_mem : ∀ character ∈ text, isNameCharacter character

/-- A default value that a list can hold. -/
structure WrittenValue where
  /-- The characters of the value. -/
  text : Text
  no_comma : ',' ∉ text
  oneLine : OneLine text
  no_comment : ¬ commentOpener <:+: text

/-- A parameter as it is written in a list. -/
inductive Item where
  /-- A name alone. -/
  | plain (name : WrittenName)
  /-- A name with a default value. -/
  | defaulted (name : WrittenName) (value : WrittenValue)
  /-- A name that collects the remaining arguments. -/
  | rest (name : WrittenName)

namespace Item

/-- The characters of an item. -/
def written : Item → Text
  | .plain name => name.text
  | .defaulted name value => name.text ++ ([' ', '=', ' '] ++ value.text)
  | .rest name => Parameter.restMarker ++ name.text

/-- The characters of the default value; none where there is no default. -/
def value : Item → Text
  | .plain _ => []
  | .defaulted _ value => value.text
  | .rest _ => []

/-- The parameter that an item declares. -/
def parameter : Item → Parameter
  | .plain name => .plain name.text
  | .defaulted name _ => .defaulted name.text
  | .rest name => .rest name.text

end Item

/-- The items of a list, a comma and a space between any two. -/
def writtenList (items : List Item) : Text :=
  [',', ' '].intercalate (items.map Item.written)

/-! ### Names -/

namespace WrittenName

variable (name : WrittenName) {character : Char}

theorem not_mem (hcharacter : isNameCharacter character = false) : character ∉ name.text := by
  intro hmem
  have hname := name.isNameCharacter_of_mem character hmem
  rw [hcharacter] at hname
  exact Bool.false_ne_true hname

theorem isBlank_of_mem (hmem : character ∈ name.text) : isBlank character = false := by
  have hname := name.isNameCharacter_of_mem character hmem
  rw [isNameCharacter, Bool.and_eq_true, Bool.not_eq_true'] at hname
  exact hname.1

theorem trim_text : trim name.text = name.text :=
  trim_eq_self fun _ hmem ↦ name.isBlank_of_mem hmem

/-- A name has a first character, which is no blank and no dot. -/
theorem exists_head : ∃ first others, name.text = first :: others ∧ isBlank first = false ∧
    first ≠ '.' := by
  obtain ⟨first, others, htext⟩ := List.exists_cons_of_ne_nil name.ne_nil
  have hmem : first ∈ name.text := by
    rw [htext]
    exact List.mem_cons_self
  refine ⟨first, others, htext, name.isBlank_of_mem hmem, ?_⟩
  rintro rfl
  exact name.not_mem (by decide) hmem

/-- The rest marker does not stand at the start of a name. -/
theorem not_restMarker_isPrefix (behind : Text) :
    ¬ Parameter.restMarker <+: name.text ++ behind := by
  obtain ⟨first, others, htext, -, hdot⟩ := name.exists_head
  rw [htext, List.cons_append, Parameter.restMarker, List.cons_prefix_cons]
  exact fun hstarts ↦ hdot hstarts.1.symm

end WrittenName

/-! ### Items -/

namespace Item

/-- A written item is read as the parameter it declares. -/
theorem classify_written (item : Item) : Parameter.classify item.written = some item.parameter := by
  cases item with
  | plain name =>
    have htrim : trim (Item.plain name).written = name.text := name.trim_text
    have hmarker := name.not_restMarker_isPrefix []
    rw [List.append_nil] at hmarker
    have hread := @Parameter.classify_of_neither (Item.plain name).written
      (by rw [htrim]; exact name.ne_nil) (by rwa [htrim])
      (by rw [htrim]; exact name.not_mem (by decide))
    rw [hread, htrim]
    rfl
  | defaulted name value =>
    have hname : trim (name.text ++ [' ']) = name.text :=
      (trim_append_right (show OnlyBlanks [' '] by decide)).trans name.trim_text
    have hequals : '=' ∉ name.text ++ [' '] := by
      simp [name.not_mem (show isNameCharacter '=' = false by decide)]
    have hmarker : ¬ Parameter.restMarker <+: trim (name.text ++ [' ']) := by
      rw [hname, ← List.append_nil name.text]
      exact name.not_restMarker_isPrefix []
    have hread := Parameter.classify_append_equals (' ' :: value.text) hequals hmarker
    rw [hname, List.append_assoc] at hread
    exact hread
  | rest name =>
    have htrim : trim (Item.rest name).written = Parameter.restMarker ++ name.text := by
      apply trim_eq_self
      intro character hmem
      rcases List.mem_append.mp hmem with hmem | hmem
      · have hdot : character = '.' := by simpa [Parameter.restMarker] using hmem
        rw [hdot]
        decide
      · exact name.isBlank_of_mem hmem
    exact Parameter.classify_of_restMarker htrim

/-- A character with a meaning of its own in a list, other than the equals sign and the dot, stands
in an item only if it stands in its default value. -/
theorem not_mem_written {item : Item} {character : Char}
    (hname : isNameCharacter character = false) (hothers : character ∉ [' ', '=', '.'])
    (hvalue : character ∉ item.value) : character ∉ item.written := by
  have hdistinct : character ≠ ' ' ∧ character ≠ '=' ∧ character ≠ '.' := by
    simpa using hothers
  cases item with
  | plain name => exact name.not_mem hname
  | defaulted name value =>
    have hvalue : character ∉ value.text := hvalue
    simp [written, name.not_mem hname, hdistinct, hvalue]
  | rest name =>
    simp [written, Parameter.restMarker, name.not_mem hname, hdistinct]

theorem no_comma (item : Item) : ',' ∉ item.written := by
  apply not_mem_written (by decide) (by decide)
  cases item with
  | plain name => simp [value]
  | defaulted name value => exact value.no_comma
  | rest name => simp [value]

/-- Two characters, the first of which is not part of a name, stand together in an item only if they
stand together in its default value. -/
theorem not_pair_isInfix_written {item : Item} {first second : Char}
    (hname : isNameCharacter first = false) (hfirst : first ∉ [' ', '.']) (hsecond : second ≠ ' ')
    (hvalue : ¬ [first, second] <:+: item.value) : ¬ [first, second] <:+: item.written := by
  have hdistinct : first ≠ ' ' ∧ first ≠ '.' := by
    simpa using hfirst
  cases item with
  | plain name => exact not_pair_isInfix_of_not_mem (Or.inl (name.not_mem hname))
  | defaulted name value =>
    apply not_pair_isInfix_append (not_pair_isInfix_of_not_mem (Or.inl (name.not_mem hname)))
    · apply not_pair_isInfix_append _ hvalue
      · left
        simpa using hdistinct.1.symm
      · simp [List.infix_cons_iff, hsecond, hdistinct.1]
    · left
      intro hlast
      exact name.not_mem hname (List.mem_of_getLast? hlast)
  | rest name =>
    apply not_pair_isInfix_of_not_mem
    left
    simp [written, Parameter.restMarker, name.not_mem hname, hdistinct.2]

theorem no_comment (item : Item) : ¬ commentOpener <:+: item.written := by
  apply not_pair_isInfix_written (by decide) (by decide) (by decide)
  cases item with
  | plain name => simp [value]
  | defaulted name value => exact value.no_comment
  | rest name => simp [value]

end Item

/-! ### Lists -/

@[simp] theorem writtenList_singleton (item : Item) : writtenList [item] = item.written := by
  simp [writtenList]

theorem writtenList_cons_cons (item next : Item) (others : List Item) :
    writtenList (item :: next :: others) =
      item.written ++ ',' :: ' ' :: writtenList (next :: others) := by
  simp [writtenList, List.intercalate_cons_cons]

/-- The items of a written list are read one by one. -/
theorem tokenParameters_writtenList (items : List Item) :
    tokenParameters (writtenList items) = items.map Item.parameter := by
  have hcomma : ∀ token ∈ items.map Item.written, ',' ∉ token := by
    rw [List.forall_mem_map]
    exact fun item _ ↦ item.no_comma
  rw [writtenList, tokenParameters_intercalate hcomma, List.filterMap_map,
    List.filterMap_eq_map_iff_forall_eq_some]
  exact fun item _ ↦ item.classify_written

/-- A character that is neither a comma nor a space stands in a list only if it does in an item. -/
theorem not_mem_writtenList {items : List Item} {character : Char}
    (hcharacter : character ∉ [',', ' ']) (hitems : ∀ item ∈ items, character ∉ item.written) :
    character ∉ writtenList items :=
  not_mem_intercalate hcharacter (List.forall_mem_map.mpr hitems)

/-- Two characters that are neither commas nor spaces stand together in a list only if they do in an
item. -/
theorem not_pair_isInfix_writtenList {items : List Item} {first second : Char}
    (hfirst : first ∉ [',', ' ']) (hsecond : second ∉ [',', ' '])
    (hitems : ∀ item ∈ items, ¬ [first, second] <:+: item.written) :
    ¬ [first, second] <:+: writtenList items :=
  not_pair_isInfix_intercalate hfirst hsecond (List.forall_mem_map.mpr hitems)

/-- A written list holds no comment. -/
theorem no_comment_writtenList (items : List Item) : ¬ commentOpener <:+: writtenList items :=
  not_pair_isInfix_writtenList (by decide) (by decide) fun item _ ↦ item.no_comment

/-- A written list is read back as the parameters of its items. -/
theorem parseParameterList_writtenList (items : List Item) :
    parseParameterList (writtenList items) = items.map Item.parameter := by
  rw [parseParameterList_of_no_comment (no_comment_writtenList items),
    tokenParameters_writtenList]

end DeclaredParams
