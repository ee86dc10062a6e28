import DeclaredParams.Proofs.Report.Styled
import Mathlib.Tactic.ByContra

/-!
# Styled reports on a terminal

A terminal divides what it receives into escape sequences and characters (`received`). What is left
when the sequences are deleted is what it shows (`withoutSequences`), and the sequences since the
last reset are the attributes in force (`attributes`). Whatever has been received before, even the
start of a sequence, an escape character begins anew (`received_append_escape`). So each event does
on the terminal what it stands for (`withoutSequences_coloured_append`), the styled report shows the
plain one when no name interferes, and each of its lines ends behind a reset (`exists_styledLine`),
all of which is `styled_shows_plain`.
-/

set_option autoImplicit false
set_option relaxedAutoImplicit false

namespace DeclaredParams.Report

/-! ### What a terminal receives -/

/-- What a terminal receives at a time. -/
inductive Received where
  /-- An escape sequence with its number. -/
  | sequence (number : Text)
  /-- A character to be shown. -/
  | character (shown : Char)
  deriving DecidableEq, Repr

/-- The number of the escape sequence at the start of a text, and the text behind the sequence. -/
def sequence? : Text → Option (Text × Text)
  | '\x1b' :: '[' :: rest =>
    match rest.dropWhile Char.isDigit with
    | 'm' :: behind =>
      if rest.takeWhile Char.isDigit = [] then none
      else some (rest.takeWhile Char.isDigit, behind)
    | _ => none
  | _ => none

/-- The number of an escape sequence: decimal digits, at least one. -/
def IsNumber (number : Text) : Prop :=
  number ≠ [] ∧ ∀ digit ∈ number, digit.isDigit = true

instance (number : Text) : Decidable (IsNumber number) :=
  @instDecidableAnd _ _ _ (List.decidableBAll _ number)

variable {text number behind : Text} {character : Char}

theorem sequence?_sequence_append (hnumber : IsNumber number) (behind : Text) :
    sequence? (sequence number ++ behind) = some (number, behind) := by
  have htext : sequence number ++ behind = '\x1b' :: '[' :: (number ++ 'm' :: behind) := by
    simp [sequence]
  have hend : 'm'.isDigit = false := by decide
  rw [htext, sequence?, List.dropWhile_append_of_pos hnumber.2,
    List.takeWhile_append_of_pos hnumber.2, List.dropWhile_cons_of_neg (by simp [hend]),
    List.takeWhile_cons_of_neg (by simp [hend]), List.append_nil]
  exact if_neg hnumber.1

/-- A sequence at the start of a text is found as it is written. -/
theorem sequence?_eq_some_iff :
    sequence? text = some (number, behind) ↔
      IsNumber number ∧ text = sequence number ++ behind := by
  constructor
  · intro hfound
    unfold sequence? at hfound
    split at hfound
    next rest =>
      have hrest := List.takeWhile_append_dropWhile (p := Char.isDigit) (l := rest)
      split at hfound
      next others hothers =>
        split at hfound
        next => cases hfound
        next hsome =>
          cases hfound
          refine ⟨⟨hsome, fun digit hmem ↦ List.all_eq_true.mp List.all_takeWhile digit hmem⟩, ?_⟩
          rw [hothers] at hrest
          simpa [sequence] using hrest.symm
      next => cases hfound
    next => cases hfound
  · rintro ⟨hnumber, rfl⟩
    exact sequence?_sequence_append hnumber behind

theorem length_of_sequence?_eq_some (hfound : sequence? text = some (number, behind)) :
    behind.length < text.length := by
  rw [(sequence?_eq_some_iff.mp hfound).2, sequence, List.length_append, List.length_append]
  simp

/-- The text as a terminal receives it, from left to right. -/
def received (text : Text) : List Received :=
  match text with
  | [] => []
  | character :: rest =>
    match _hfound : sequence? (character :: rest) with
    | some (number, behind) => .sequence number :: received behind
    | none => .character character :: received rest
termination_by text.length
decreasing_by
  · exact length_of_sequence?_eq_some (by assumption)
  · simp

theorem received_sequence_append (hnumber : IsNumber number) (behind : Text) :
    received (sequence number ++ behind) = .sequence number :: received behind := by
  have hfound := sequence?_sequence_append hnumber behind
  cases htext : sequence number ++ behind with
  | nil => simp [sequence] at htext
  | cons first others =>
    rw [htext] at hfound
    rw [received]
    split
    next hsome =>
      rw [hfound] at hsome
      cases hsome
      rfl
    next hnone =>
      rw [hfound] at hnone
      cases hnone

theorem received_cons (hnone : sequence? (character :: text) = none) :
    received (character :: text) = .character character :: received text := by
  rw [received]
  split
  next hsome =>
    rw [hnone] at hsome
    cases hsome
  next => rfl

theorem sequence?_cons_of_ne (hcharacter : character ≠ '\x1b') :
    sequence? (character :: text) = none := by
  unfold sequence?
  split
  next heq => exact absurd (List.cons.inj heq).1 hcharacter
  next => rfl

/-- A text without the escape character is received character by character. -/
theorem received_append (htext : '\x1b' ∉ text) (behind : Text) :
    received (text ++ behind) = text.map .character ++ received behind := by
  induction text with
  | nil => rfl
  | cons first others ih =>
    rw [List.mem_cons, not_or] at htext
    rw [List.cons_append, received_cons (sequence?_cons_of_ne (Ne.symm htext.1)), ih htext.2]
    rfl

/-- The escape character stands at the start of a sequence and nowhere else in it. -/
theorem escape_not_mem_tail_sequence (hnumber : IsNumber number) :
    '\x1b' ∉ (sequence number).tail := by
  intro hmem
  have htail : (sequence number).tail = '[' :: (number ++ ['m']) := rfl
  rw [htail, List.mem_cons, List.mem_append, List.mem_singleton] at hmem
  rcases hmem with hbracket | hdigit | hend
  · exact absurd hbracket (by decide)
  · exact absurd (hnumber.2 _ hdigit) (by decide)
  · exact absurd hend (by decide)

/-- No sequence goes over an escape character. -/
theorem sequence?_append_escape (hnone : sequence? (character :: text) = none) (behind : Text) :
    sequence? (character :: (text ++ '\x1b' :: behind)) = none := by
  rw [Option.eq_none_iff_forall_ne_some] at hnone ⊢
  rintro ⟨number, rest⟩ hfound
  obtain ⟨hnumber, hsplit⟩ := sequence?_eq_some_iff.mp hfound
  rw [← List.cons_append, List.append_eq_append_iff] at hsplit
  rcases hsplit with ⟨beyond, hsequence, hescape⟩ | ⟨inside, htext, -⟩
  · cases beyond with
    | nil =>
      apply hnone (number, [])
      rw [sequence?_eq_some_iff, hsequence, List.append_nil, List.append_nil]
      exact ⟨hnumber, rfl⟩
    | cons first others =>
      obtain rfl : '\x1b' = first := (List.cons.inj hescape).1
      apply escape_not_mem_tail_sequence hnumber
      rw [hsequence]
      simp
  · exact hnone (number, inside) (sequence?_eq_some_iff.mpr ⟨hnumber, htext⟩)

/-- An escape character begins anew, whatever stands before it. -/
theorem received_append_escape (text behind : Text) :
    received (text ++ '\x1b' :: behind) = received text ++ received ('\x1b' :: behind) := by
  fun_induction received text with
  | case1 => rfl
  | case2 first others number rest hfound ih =>
    obtain ⟨hnumber, htext⟩ := sequence?_eq_some_iff.mp hfound
    rw [htext, List.append_assoc, received_sequence_append hnumber, ih, List.cons_append]
  | case3 first others hnone ih =>
    rw [List.cons_append, received_cons (sequence?_append_escape hnone behind), ih,
      List.cons_append]

/-- A sequence is received wherever it stands. -/
theorem received_append_sequence (hnumber : IsNumber number) (text behind : Text) :
    received (text ++ (sequence number ++ behind)) =
      received text ++ .sequence number :: received behind := by
  rw [← received_sequence_append hnumber]
  exact received_append_escape text _

/-! ### What it shows -/

/-- What a terminal shows of a text. -/
def withoutSequences (text : Text) : Text :=
  (received text).flatMap fun
    | .sequence _ => []
    | .character shown => [shown]

theorem withoutSequences_sequence_append (hnumber : IsNumber number) (behind : Text) :
    withoutSequences (sequence number ++ behind) = withoutSequences behind := by
  rw [withoutSequences, received_sequence_append hnumber]
  rfl

theorem withoutSequences_append (htext : '\x1b' ∉ text) (behind : Text) :
    withoutSequences (text ++ behind) = text ++ withoutSequences behind := by
  rw [withoutSequences, received_append htext, List.flatMap_append, List.flatMap_map]
  simp [withoutSequences]

theorem Colour.isNumber (colour : Colour) : IsNumber colour.number := by
  cases colour <;> decide

/-- The styles leave nothing behind when their sequences are deleted. -/
theorem withoutSequences_sequences_append (style : Style) (behind : Text) :
    withoutSequences (style.sequences ++ behind) = withoutSequences behind := by
  obtain ⟨colour, bold⟩ := style
  have hbold : ∀ behind, withoutSequences ((if bold then sequence ['1'] else []) ++ behind) =
      withoutSequences behind := by
    cases bold with
    | true => exact withoutSequences_sequence_append (by decide)
    | false => exact fun _ ↦ rfl
  rw [Style.sequences, resetSequence, List.append_assoc, List.append_assoc,
    withoutSequences_sequence_append (by decide), hbold]
  cases colour with
  | none => rfl
  | some colour => exact withoutSequences_sequence_append colour.isNumber behind

/-- The event writes no text with the character in it. -/
def Event.Lacks (character : Char) : Event → Prop
  | .text written => character ∉ written
  | _ => True

/-- With its sequences deleted an event is what it is without styles. -/
theorem withoutSequences_coloured_append {event : Event} (hevent : event.Lacks '\x1b')
    (behind : Text) :
    withoutSequences (event.coloured ++ behind) = event.uncoloured ++ withoutSequences behind := by
  cases event with
  | setStyle style => exact withoutSequences_sequences_append style behind
  | text written => exact withoutSequences_append hevent behind
  | reset => exact withoutSequences_sequence_append (by decide) behind

theorem withoutSequences_flatMap_coloured {events : List Event}
    (hevents : ∀ event ∈ events, event.Lacks '\x1b') :
    withoutSequences (events.flatMap Event.coloured) = events.flatMap Event.uncoloured := by
  induction events with
  | nil => rw [List.flatMap_nil, List.flatMap_nil, withoutSequences, received, List.flatMap_nil]
  | cons event others ih =>
    rw [List.forall_mem_cons] at hevents
    rw [List.flatMap_cons, List.flatMap_cons, withoutSequences_coloured_append hevents.1,
      ih hevents.2]

/-! ### Its attributes -/

/-- The attributes in force once something has been received: the number of a sequence sets one, and
the number 0 ends them all. -/
def Received.setAttributes (active : List Text) : Received → List Text
  | .sequence number => if number = ['0'] then [] else active ++ [number]
  | .character _ => active

/-- The attributes in force behind a text, by the numbers that set them. -/
def attributes (text : Text) : List Text :=
  (received text).foldl Received.setAttributes []

/-- Characters set no attributes. -/
theorem foldl_setAttributes_character (shown : Text) (active : List Text) :
    (shown.map Received.character).foldl Received.setAttributes active = active := by
  induction shown with
  | nil => rfl
  | cons first others ih => exact ih

/-- Behind a reset no attribute is in force, whatever has been received before it. -/
theorem attributes_append_reset {shown : Text} (hshown : '\x1b' ∉ shown) (text : Text) :
    attributes (text ++ (resetSequence ++ shown)) = [] := by
  have hplain : received shown = shown.map .character := by
    rw [← List.append_nil shown, received_append hshown, received, List.append_nil, List.append_nil]
  rw [attributes, resetSequence, received_append_sequence (by decide), hplain, List.foldl_append,
    List.foldl_cons]
  exact foldl_setAttributes_character shown []

/-! ### Lines -/

/-- The line of one parameter with its styles. -/
def styledLine (parameter : Parameter) : Text :=
  (lineEvents parameter).flatMap Event.coloured

/-- The report is written line by line. -/
theorem styled_true_cons (parameter : Parameter) (others : List Parameter) :
    styled true (parameter :: others) = styledLine parameter ++ styled true others :=
  List.flatMap_append

section Line

variable {parameter : Parameter}

/-- In front of its line feed a line writes the name and the markers. -/
theorem lacks_of_mem_events (hname : character ∉ parameter.name)
    (hrest : character ∉ Parameter.restMarker) (hdefault : character ∉ defaultMarker) :
    ∀ event ∈ nameEvents parameter ++ defaultEvents parameter, event.Lacks character := by
  rw [List.forall_mem_append, nameEvents, defaultEvents]
  constructor
  · cases parameter.isRest <;> simp [Event.Lacks, hname, hrest]
  · cases parameter.hasDefault <;> simp [Event.Lacks, hdefault]

/-- The last event in front of the line feed is a reset. -/
theorem exists_events_eq (parameter : Parameter) :
    ∃ front, nameEvents parameter ++ defaultEvents parameter = front ++ [.reset] := by
  rw [← List.getLast?_eq_some_iff, nameEvents, defaultEvents]
  cases parameter.isRest <;> cases parameter.hasDefault <;> rfl

theorem lineFeed_not_mem_coloured {event : Event} (hevent : event.Lacks '\n') :
    '\n' ∉ event.coloured := by
  cases event with
  | setStyle style =>
    obtain ⟨colour, bold⟩ := style
    rcases colour with _ | _ | _ <;> cases bold <;> decide
  | text written => exact hevent
  | reset => decide

/-- A line ends behind a reset. -/
theorem exists_styledLine (parameter : Parameter) :
    ∃ body, styledLine parameter = body ++ resetSequence ++ ['\n'] ∧
      ('\n' ∉ parameter.name → '\n' ∉ body ++ resetSequence) := by
  obtain ⟨front, hfront⟩ := exists_events_eq parameter
  have hbody : (nameEvents parameter ++ defaultEvents parameter).flatMap Event.coloured =
      front.flatMap Event.coloured ++ resetSequence := by
    rw [hfront, List.flatMap_append]
    rfl
  refine ⟨front.flatMap Event.coloured, ?_, fun hname hmem ↦ ?_⟩
  · rw [styledLine, lineEvents, List.flatMap_append, hbody]
    rfl
  · rw [← hbody, List.mem_flatMap] at hmem
    obtain ⟨event, hevent, hcoloured⟩ := hmem
    exact lineFeed_not_mem_coloured
      (lacks_of_mem_events hname (by decide) (by decide +kernel) event hevent) hcoloured

end Line

/-! ### Reports -/

section Reports

variable {parameters : List Parameter}

/-- The events of a report write the names, the markers and line feeds. -/
theorem lacks_escape_of_mem_events (hnames : ∀ parameter ∈ parameters, '\x1b' ∉ parameter.name) :
    ∀ event ∈ events parameters, event.Lacks '\x1b' := by
  intro event hevent
  obtain ⟨parameter, hparameter, hline⟩ := List.mem_flatMap.mp hevent
  rcases List.mem_append.mp hline with hfront | hbreak
  · exact lacks_of_mem_events (hnames parameter hparameter) (by decide) (by decide +kernel)
      event hfront
  · rw [List.mem_singleton.mp hbreak, Event.Lacks]
    decide

/-- Before a line feed that no name holds stands a reset. -/
theorem exists_reset_of_lineFeed (hnames : ∀ parameter ∈ parameters, '\n' ∉ parameter.name)
    {before after : Text} (hsplit : styled true parameters = before ++ '\n' :: after) :
    ∃ body, before = body ++ resetSequence := by
  induction parameters generalizing before with
  | nil => simp [styled, events] at hsplit
  | cons parameter others ih =>
    rw [List.forall_mem_cons] at hnames
    obtain ⟨body, hline, hbody⟩ := exists_styledLine parameter
    rw [styled_true_cons, hline, List.append_assoc] at hsplit
    rcases List.append_eq_append_iff.mp hsplit with ⟨rest, rfl, hrest⟩ | ⟨rest, hinside, hrest⟩
    · cases rest with
      | nil => exact ⟨body, List.append_nil _⟩
      | cons first behind =>
        obtain ⟨rfl, hothers⟩ := List.cons.inj hrest
        obtain ⟨later, rfl⟩ := ih hnames.2 hothers
        exact ⟨body ++ resetSequence ++ '\n' :: later, by simp⟩
    · cases rest with
      | nil => exact ⟨body, by rw [hinside, List.append_nil]⟩
      | cons first behind =>
        obtain ⟨rfl, -⟩ := List.cons.inj hrest
        exact absurd (by rw [hinside]; simp) (hbody hnames.1)

/-- The line of a parameter ends behind a reset, and the later parameters follow. -/
theorem exists_styled_append_cons (front : List Parameter) (parameter : Parameter)
    (behind : List Parameter) :
    ∃ body, styled true (front ++ parameter :: behind) =
      body ++ resetSequence ++ '\n' :: styled true behind := by
  obtain ⟨body, hline, -⟩ := exists_styledLine parameter
  have happend : styled true (front ++ parameter :: behind) =
      styled true front ++ styled true (parameter :: behind) := by
    simp [styled, events]
  refine ⟨styled true front ++ body, ?_⟩
  rw [happend, styled_true_cons, hline]
  simp

/-- What a terminal makes of a report. Without styles the report is the plain one. With styles it
shows the plain one, when no name holds an escape character. The line of every parameter ends, in
front of what the later parameters write, with no attribute in force, as does the report, and so
does every line when no name holds a line feed of its own. -/
theorem styled_shows_plain (parameters : List Parameter) :
    styled false parameters = plain parameters ∧
    ((∀ parameter ∈ parameters, '\x1b' ∉ parameter.name) →
      withoutSequences (styled true parameters) = plain parameters) ∧
    (∀ front parameter behind, parameters = front ++ parameter :: behind →
      ∃ before, styled true parameters = before ++ '\n' :: styled true behind ∧
        attributes before = []) ∧
    ((∀ parameter ∈ parameters, '\n' ∉ parameter.name) → ∀ before after,
      styled true parameters = before ++ '\n' :: after → attributes before = []) ∧
    attributes (styled true parameters) = [] := by
  have hreset : ∀ body, attributes (body ++ resetSequence) = [] := by
    intro body
    simpa using attributes_append_reset (List.not_mem_nil (a := '\x1b')) body
  refine ⟨styled_false parameters, fun hnames ↦ ?_, ?_, fun hnames before after hsplit ↦ ?_, ?_⟩
  · rw [← styled_false parameters]
    exact withoutSequences_flatMap_coloured (lacks_escape_of_mem_events hnames)
  · rintro front parameter behind rfl
    obtain ⟨body, hbody⟩ := exists_styled_append_cons front parameter behind
    exact ⟨body ++ resetSequence, hbody, hreset body⟩
  · obtain ⟨body, rfl⟩ := exists_reset_of_lineFeed hnames hsplit
    exact hreset body
  · rcases List.eq_nil_or_concat parameters with rfl | ⟨front, parameter, rfl⟩
    · rw [styled, events, List.flatMap_nil, List.flatMap_nil, attributes, received, List.foldl_nil]
    · obtain ⟨body, hbody⟩ := exists_styled_append_cons front parameter []
      rw [List.concat_eq_append, hbody, List.append_assoc]
      exact attributes_append_reset (by decide) body

/-- A name that looks like the end of a sequence is shown, and one that ends within a sequence does
not swallow the reset behind it. -/
theorem styled_shows_plain_of_imitation :
    withoutSequences (styled true [⟨"[0m5m".toList, true, true⟩, .plain ['a']]) =
      "...[0m5m (default)\na\n".toList ∧
    ∃ before, styled true [⟨"\x1b[1m\n\x1b[4".toList, false, false⟩, .plain ['a']] =
        before ++ '\n' :: styled true [.plain ['a']] ∧
      attributes before = [] := by
  obtain ⟨-, hshown, -, -, -⟩ := styled_shows_plain [⟨"[0m5m".toList, true, true⟩, .plain ['a']]
  obtain ⟨-, -, hlines, -, -⟩ :=
    styled_shows_plain [⟨"\x1b[1m\n\x1b[4".toList, false, false⟩, .plain ['a']]
  exact ⟨(hshown (by decide +kernel)).trans (by decide +kernel), hlines [] _ _ rfl⟩

end Reports

end DeclaredParams.Report
