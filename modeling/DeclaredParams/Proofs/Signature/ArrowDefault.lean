import DeclaredParams.Proofs.Signature.Declaration

/-!
# Default values that hold an arrow

The list of an arrow function ends at the first arrow of the source, and that may be the arrow of a
default value, for a default value may be an arrow function itself. `readItems` are the items up to
the first one with such a value, and `extract_arrowText` says that the parameters found are theirs:
the value is cut off at its arrow, which does not change what its item declares
(`parseParameterList_cutShort`), and all items behind it are lost. So a list is read back exactly
when no item but the last one has an arrow in its default value.
-/

set_option autoImplicit false
set_option relaxedAutoImplicit false

namespace DeclaredParams

open Text

/-! ### The items that are read -/

/-- The default value of the item holds an arrow. -/
def Item.holdsArrow (item : Item) : Bool :=
  (cut? Shape.arrow item.value).isSome

theorem Item.holdsArrow_iff {item : Item} : item.holdsArrow ↔ Shape.arrow <:+: item.value := by
  rw [Item.holdsArrow, Option.isSome_iff_ne_none, ne_eq, cut?_eq_none_iff, Classical.not_not]

/-- The items up to the first one whose default value holds an arrow, that one included. -/
def readItems : List Item → List Item
  | [] => []
  | item :: others => if item.holdsArrow then [item] else item :: readItems others

/-- Without an arrow in a value all items are read. -/
theorem readItems_eq_self {items : List Item} (hitems : ∀ item ∈ items, item.holdsArrow = false) :
    readItems items = items := by
  induction items with
  | nil => rfl
  | cons item others ih =>
    rw [List.forall_mem_cons] at hitems
    rw [readItems, hitems.1, if_neg Bool.false_ne_true, ih hitems.2]

/-- The first item with an arrow in its value is the last one that is read. -/
theorem readItems_append_cons {front others : List Item} {item : Item}
    (hfront : ∀ earlier ∈ front, earlier.holdsArrow = false) (hitem : item.holdsArrow) :
    readItems (front ++ item :: others) = front ++ [item] := by
  induction front with
  | nil => rw [List.nil_append, readItems, if_pos hitem, List.nil_append]
  | cons first more ih =>
    rw [List.forall_mem_cons] at hfront
    rw [List.cons_append, readItems, hfront.1, if_neg Bool.false_ne_true, ih hfront.2,
      List.cons_append]

/-- The items that are read declare the whole list exactly when the others are none: only the last
item may have an arrow in its value. -/
theorem map_readItems_eq_iff (items : List Item) :
    (readItems items).map Item.parameter = items.map Item.parameter ↔
      ∀ item ∈ items.dropLast, ¬ Shape.arrow <:+: item.value := by
  induction items with
  | nil => simp [readItems]
  | cons item others ih =>
    rw [readItems]
    cases others with
    | nil => by_cases hitem : item.holdsArrow <;> simp [hitem, readItems]
    | cons next others =>
      rw [List.dropLast_cons_of_ne_nil (by simp), List.forall_mem_cons, ← ih,
        ← Item.holdsArrow_iff]
      by_cases hitem : item.holdsArrow <;> simp [hitem]

/-! ### A list that is cut short -/

/-- An initial part of a default value can stand in a list as well. -/
def WrittenValue.initialPart (value : WrittenValue) (text : Text) (htext : text <+: value.text) :
    WrittenValue where
  text := text
  no_comma := fun hmem ↦ value.no_comma (htext.subset hmem)
  oneLine := fun character hmem ↦ value.oneLine character (htext.subset hmem)
  no_comment := fun hoccurs ↦ value.no_comment (hoccurs.trans htext.isInfix)

/-- An item with an arrow in its value is written as an item without one, then the arrow. -/
theorem Item.exists_written_eq {item : Item} (hitem : item.holdsArrow) :
    ∃ name value behind, item.written = (Item.defaulted name value).written ++
        (Shape.arrow ++ behind) ∧ ¬ Shape.arrow <:+: value.text ∧
      (Item.defaulted name value).parameter = item.parameter := by
  cases item with
  | plain name => exact absurd hitem Bool.false_ne_true
  | rest name => exact absurd hitem Bool.false_ne_true
  | defaulted name value =>
    rw [Item.holdsArrow, Option.isSome_iff_exists] at hitem
    obtain ⟨⟨before, behind⟩, hcut⟩ := hitem
    have hvalue : value.text = before ++ (Shape.arrow ++ behind) := by
      rw [← List.append_assoc]
      exact cut?_eq_some hcut
    refine ⟨name, value.initialPart before ⟨_, hvalue.symm⟩, behind, ?_, ?_, rfl⟩
    · simp only [Item.written, WrittenValue.initialPart, hvalue, List.append_assoc]
    · exact not_isInfix_of_cut? (by decide) hcut

/-- In a list an item is written between what is written for the items around it. -/
theorem exists_writtenList_eq (front others : List Item) :
    ∃ lead trail, ∀ item, writtenList (front ++ [item]) = lead ++ item.written ∧
      writtenList (front ++ item :: others) = lead ++ (item.written ++ trail) := by
  induction front with
  | nil =>
    cases others with
    | nil => exact ⟨[], [], fun item ↦ by simp⟩
    | cons next others =>
      exact ⟨[], ',' :: ' ' :: writtenList (next :: others), fun item ↦
        ⟨writtenList_singleton item, writtenList_cons_cons item next others⟩⟩
  | cons first more ih =>
    obtain ⟨lead, trail, hmore⟩ := ih
    refine ⟨first.written ++ ',' :: ' ' :: lead, trail, ?_⟩
    -- What follows the first item is not empty, so a comma and a space stand between them.
    have hcons (item : Item) (behind : List Item) :
        writtenList (first :: (more ++ item :: behind)) =
          first.written ++ ',' :: ' ' :: writtenList (more ++ item :: behind) := by
      cases more <;> exact writtenList_cons_cons _ _ _
    intro item
    rw [List.cons_append, List.cons_append, hcons, hcons, (hmore item).1, (hmore item).2]
    simp only [List.append_assoc, List.cons_append, true_and]

/-- A character that is no closing parenthesis stays, with all that stands before it. -/
theorem Shape.withoutClosing_append_cons {character : Char} (hcharacter : character ≠ ')')
    (front rest : Text) :
    Shape.withoutClosing (front ++ character :: rest) =
      front ++ character :: Shape.withoutClosing rest := by
  rw [← Shape.withoutClosing_cons hcharacter]
  rcases Shape.exists_withoutClosing (character :: rest) with hrest | ⟨hrest, hlast⟩
  · rw [hrest, ← List.append_assoc, Shape.withoutClosing_concat, Shape.withoutClosing_concat]
  · rw [← hrest, Shape.withoutClosing_eq_self]
    simpa [List.getLast?_append] using hlast

/-- A list whose last item has a default value declares the same parameters without the blanks and
the closing parenthesis at its end: they belong to the value. -/
theorem parseParameterList_cutShort (front : List Item) (name : WrittenName)
    (value : WrittenValue) :
    parseParameterList (Shape.withoutClosing
        (trimEnd (writtenList (front ++ [.defaulted name value])))) =
      (front ++ [Item.defaulted name value]).map Item.parameter := by
  obtain ⟨lead, trail, hlist⟩ := exists_writtenList_eq front []
  have hwritten (shorter : WrittenValue) : writtenList (front ++ [.defaulted name shorter]) =
      lead ++ name.text ++ [' '] ++ '=' :: ' ' :: shorter.text := by
    rw [(hlist _).1, Item.written]
    simp only [List.append_assoc, List.cons_append, List.nil_append]
  have hread (shorter : WrittenValue) :
      parseParameterList (writtenList (front ++ [.defaulted name shorter])) =
        (front ++ [Item.defaulted name value]).map Item.parameter := by
    rw [parseParameterList_writtenList, List.map_append, List.map_append]
    rfl
  rw [hwritten, trimEnd_append_cons (by decide), Shape.withoutClosing_append_cons (by decide)]
  rcases List.prefix_cons_iff.mp (Shape.withoutClosing_trimEnd_isPrefix (' ' :: value.text)) with
    hnil | ⟨shorter, hcons, hshorter⟩
  · have hspace : OnlyBlanks [' '] := by decide
    have hempty := hread (value.initialPart [] (List.nil_prefix))
    rw [hwritten, ← parseParameterList_trim] at hempty
    rw [hnil, ← parseParameterList_trim, ← trim_append_right hspace, ← hempty, List.append_assoc]
    rfl
  · have hsame := hread (value.initialPart shorter hshorter)
    rw [hwritten] at hsame
    rwa [hcons]

/-! ### Arrow functions -/

/-- A written list is on one line. -/
theorem oneLine_writtenList (items : List Item) : OneLine (writtenList items) := by
  have habsent (character : Char) (hbreak : isLineBreak character)
      (hname : isNameCharacter character = false)
      (hcharacter : character ∉ [',', ' ', '=', '.']) : character ∉ writtenList items := by
    simp only [List.mem_cons, List.not_mem_nil, or_false, not_or] at hcharacter
    apply not_mem_writtenList (by simp [hcharacter])
    intro item _
    apply Item.not_mem_written hname (by simp [hcharacter])
    cases item with
    | plain name => simp [Item.value]
    | rest name => simp [Item.value]
    | defaulted name value =>
      intro hmem
      have honLine := value.oneLine character hmem
      rw [hbreak] at honLine
      exact Bool.false_ne_true honLine.symm
  intro character hmem
  rw [← Bool.not_eq_true]
  intro hbreak
  have hcases : character = '\n' ∨ character = '\r' := by simpa [isLineBreak] using hbreak
  rcases hcases with rfl | rfl
  · exact habsent '\n' (by decide) (by decide) (by decide) hmem
  · exact habsent '\r' (by decide) (by decide) (by decide) hmem

/-- The list of an arrow function is captured up to the arrow of the first value that holds one. -/
theorem exists_capture_arrowText (items : List Item) {gap : Text} (hgap : OnlyBlanks gap)
    (behind : Text) :
    ∃ raw, Shape.capture .arrowFunction (Shape.arrowText (writtenList items) gap behind) =
        some (trim raw) ∧ parseParameterList raw = (readItems items).map Item.parameter := by
  cases hfind : items.find? Item.holdsArrow with
  | none =>
    have hitems : ∀ item ∈ items, item.holdsArrow = false := by
      simpa using List.find?_eq_none.mp hfind
    have hvalues : ∀ item ∈ items, ¬ Shape.arrow <:+: item.value := by
      intro item hitem
      rw [← Item.holdsArrow_iff, hitems item hitem]
      exact Bool.false_ne_true
    refine ⟨writtenList items, ?_, ?_⟩
    · exact Shape.capture_arrowText (oneLine_writtenList items).not_mem
        (arrow_not_isInfix_writtenList hvalues) hgap behind
    · rw [parseParameterList_writtenList, readItems_eq_self hitems]
  | some item =>
    obtain ⟨hitem, front, others, rfl, hfront⟩ := List.find?_eq_some_iff_append.mp hfind
    have hearlier : ∀ earlier ∈ front, earlier.holdsArrow = false := by simpa using hfront
    obtain ⟨name, value, later, hwritten, hvalue, hparameter⟩ := Item.exists_written_eq hitem
    obtain ⟨lead, trail, hlist⟩ := exists_writtenList_eq front others
    -- The source up to the arrow is the start of a list in which the value ends there.
    have hsource : Shape.arrowText (writtenList (front ++ item :: others)) gap behind =
        '(' :: writtenList (front ++ [.defaulted name value]) ++ '=' :: '>' ::
          (later ++ (trail ++ ')' :: (gap ++ (Shape.arrow ++ behind)))) := by
      rw [(hlist item).2, hwritten, (hlist _).1, Shape.arrowText]
      simp only [Shape.arrow, List.append_assoc, List.cons_append, List.nil_append]
    have hbefore : ¬ Shape.arrow <:+: '(' :: writtenList (front ++ [.defaulted name value]) := by
      have hinside : ¬ Shape.arrow <:+: writtenList (front ++ [.defaulted name value]) := by
        apply arrow_not_isInfix_writtenList
        intro other hother
        rcases List.mem_append.mp hother with hother | hother
        · rw [← Item.holdsArrow_iff, hearlier other hother]
          exact Bool.false_ne_true
        · rwa [List.mem_singleton.mp hother]
      rw [List.infix_cons_iff, not_or]
      exact ⟨by simp [Shape.arrow, List.cons_prefix_cons], hinside⟩
    have hcut : cut? Shape.arrow (Shape.arrowText (writtenList (front ++ item :: others)) gap
        behind) = some ('(' :: writtenList (front ++ [.defaulted name value]),
          later ++ (trail ++ ')' :: (gap ++ (Shape.arrow ++ behind)))) := by
      rw [hsource]
      exact cut?_pair (by decide) hbefore
    refine ⟨_, Shape.capture_arrow_of_cut hcut ?_, ?_⟩
    · intro hmem
      have hinside := Shape.mem_of_mem_arrowList hmem
      rw [List.mem_cons] at hinside
      exact hinside.elim (by decide) (oneLine_writtenList _).not_mem
    · rw [Shape.arrowList_cons, parseParameterList_cutShort, readItems_append_cons hearlier hitem,
        List.map_append, List.map_append]
      simp only [List.map_cons, List.map_nil, hparameter]

/-- The parameters of an arrow function are those of the items that are read, so the list is read
back exactly when only its last item may have an arrow in its default value. -/
theorem extract_arrowText (items : List Item) {gap : Text} (hgap : OnlyBlanks gap)
    (behind : Text) :
    extract (.only .arrowFunction) (Shape.arrowText (writtenList items) gap behind) =
        (readItems items).map Item.parameter ∧
      (extract (.only .arrowFunction) (Shape.arrowText (writtenList items) gap behind) =
          items.map Item.parameter ↔
        ∀ item ∈ items.dropLast, ¬ Shape.arrow <:+: item.value) := by
  have hjoined : joinLines (Shape.arrowText (writtenList items) gap behind) =
      Shape.arrowText (writtenList items) (joinLines gap) (joinLines behind) := by
    have hlist := joinLines_eq_self (oneLine_writtenList items)
    have hsplit (list gap behind : Text) : Shape.arrowText list gap behind =
        ['('] ++ list ++ [')'] ++ gap ++ Shape.arrow ++ behind := by
      simp [Shape.arrowText]
    rw [hsplit, hsplit]
    simp only [joinLines_append, hlist]
    rfl
  have hblanks : OnlyBlanks (joinLines gap) :=
    fun character hmem ↦ hgap character (List.mem_filter.mp hmem).1
  obtain ⟨raw, hcapture, hraw⟩ := exists_capture_arrowText items hblanks (joinLines behind)
  have honLine : OneLine
      (Shape.arrowText (writtenList items) (joinLines gap) (joinLines behind)) := by
    rw [← hjoined]
    exact oneLine_joinLines _
  have hread : extract (.only .arrowFunction) (Shape.arrowText (writtenList items) gap behind) =
      (readItems items).map Item.parameter := by
    rw [extract, ← inspect_joinLines, hjoined,
      inspect_of_capture honLine (Shape.trimStart_arrowText _ _ _) rfl hcapture, hraw]
    intro earlier hprecedes henabled
    exact absurd henabled (ShapeSet.not_isEnabled_only hprecedes)
  refine ⟨hread, ?_⟩
  rw [hread, map_readItems_eq_iff]

/-- A default value that is an arrow function ends the list, so the parameter behind it is lost. -/
theorem extract_arrowText_of_arrow_value :
    extract (.only .arrowFunction) "(a = x => x, b) => a".toList = [.defaulted ['a']] := by
  have hlist : writtenList
      [.defaulted ⟨['a'], by simp, List.all_eq_true.mp rfl⟩
          ⟨"x => x".toList, by decide, by decide, not_pair_isInfix_of_not_mem (by decide)⟩,
        .plain ⟨['b'], by simp, List.all_eq_true.mp rfl⟩] = "a = x => x, b".toList := by
    decide +kernel
  have hsource : Shape.arrowText "a = x => x, b".toList [' '] " a".toList =
      "(a = x => x, b) => a".toList := by
    decide +kernel
  have hread := (extract_arrowText
    [.defaulted ⟨['a'], by simp, List.all_eq_true.mp rfl⟩
        ⟨"x => x".toList, by decide, by decide, not_pair_isInfix_of_not_mem (by decide)⟩,
      .plain ⟨['b'], by simp, List.all_eq_true.mp rfl⟩]
    (show OnlyBlanks [' '] by decide) " a".toList).1
  rw [hlist, hsource] at hread
  rw [hread]
  decide +kernel

end DeclaredParams
