import DeclaredParams.Proofs.Pattern.Preference
import DeclaredParams.Proofs.Text.Division
import DeclaredParams.Proofs.Text.Trimming
import DeclaredParams.Shape.Capture

/-!
# The parameter list of an arrow function

An arrow function is divided at its first arrow, and the list is what `arrowList` leaves of the part
before it: without the blanks at its end, without one closing parenthesis there and without one
opening parenthesis at its start. `capture_arrowPattern` says that the pattern captures this list
when it is on one line and nothing when it is not. A match that stops before the end of the list
would have to find an arrow earlier than the first one (`not_startsWithArrow`), so the lazy reading
cannot cut the list short and giving up a parenthesis does not help. Text put behind an arrow
function does not change its list (`capture_arrow_append`).
-/

set_option autoImplicit false
set_option relaxedAutoImplicit false

namespace DeclaredParams.Shape

open Text

variable {text before after : Text}

/-- The two characters of an arrow. -/
def arrow : Text := ['=', '>']

/-! ### What is left of the text before the arrow -/

/-- The text without a closing parenthesis at its end. -/
def withoutClosing (text : Text) : Text :=
  if text.getLast? = some ')' then text.dropLast else text

/-- The text without an opening parenthesis at its start. -/
def withoutOpening : Text → Text
  | '(' :: text => text
  | text => text

/-- The parameter list in the text before an arrow. -/
def arrowList (before : Text) : Text :=
  withoutOpening (withoutClosing (trimEnd before))

theorem withoutClosing_concat (text : Text) : withoutClosing (text ++ [')']) = text := by
  simp [withoutClosing]

theorem withoutClosing_eq_self (htext : text.getLast? ≠ some ')') : withoutClosing text = text := by
  rw [withoutClosing, if_neg htext]

/-- What is removed from the end is a closing parenthesis, or nothing when there is none. -/
theorem exists_withoutClosing (text : Text) :
    text = withoutClosing text ++ [')'] ∨
      text = withoutClosing text ∧ text.getLast? ≠ some ')' := by
  by_cases hlast : text.getLast? = some ')'
  · left
    obtain ⟨front, rfl⟩ := List.getLast?_eq_some_iff.mp hlast
    rw [withoutClosing_concat]
  · exact Or.inr ⟨(withoutClosing_eq_self hlast).symm, hlast⟩

theorem withoutClosing_cons {character : Char} (hcharacter : character ≠ ')') (text : Text) :
    withoutClosing (character :: text) = character :: withoutClosing text := by
  rcases exists_withoutClosing text with htext | ⟨htext, hlast⟩
  · rw [htext, ← List.cons_append, withoutClosing_concat, withoutClosing_concat]
  · rw [← htext, withoutClosing_eq_self]
    cases text with
    | nil => simpa using hcharacter
    | cons next others => rwa [List.getLast?_cons_cons]

/-- What is removed from the start is one character or none. -/
theorem withoutOpening_eq_drop (text : Text) :
    withoutOpening text = text.drop (if text.head? = some '(' then 1 else 0) := by
  unfold withoutOpening
  split
  next rest => rfl
  next hother =>
    rw [if_neg, List.drop_zero]
    intro hhead
    obtain ⟨rest, hrest⟩ := List.head?_eq_some_iff.mp hhead
    exact hother rest hrest

/-- What is left in front of the end of a text is an initial part of it. -/
theorem withoutClosing_trimEnd_isPrefix (text : Text) : withoutClosing (trimEnd text) <+: text := by
  obtain ⟨trail, -, htext⟩ := exists_trimEnd text
  have htrimmed : trimEnd text <+: text := ⟨trail, htext.symm⟩
  refine List.IsPrefix.trans ?_ htrimmed
  rcases exists_withoutClosing (trimEnd text) with hend | ⟨hend, -⟩
  · exact ⟨[')'], hend.symm⟩
  · exact ⟨[], (List.append_nil _).trans hend.symm⟩

/-- Behind an opening parenthesis the list is what is left of the rest. -/
theorem arrowList_cons (before : Text) :
    arrowList ('(' :: before) = withoutClosing (trimEnd before) := by
  rw [arrowList, trimEnd_cons (by decide), withoutClosing_cons (by decide)]
  rfl

/-- The list is a part of the text before the arrow. -/
theorem mem_of_mem_arrowList {character : Char} (hmem : character ∈ arrowList before) :
    character ∈ before := by
  apply (withoutClosing_trimEnd_isPrefix before).subset
  rw [arrowList] at hmem
  unfold withoutOpening at hmem
  split at hmem
  next rest hrest =>
    rw [hrest]
    exact List.mem_cons_of_mem _ hmem
  next => exact hmem

/-- Where no opening parenthesis stands at the start, nothing is removed there. -/
theorem arrowList_eq_of_not_opening (hbefore : ¬ ∃ rest, before = '(' :: rest) :
    arrowList before = withoutClosing (trimEnd before) := by
  obtain ⟨behind, hbehind⟩ := withoutClosing_trimEnd_isPrefix before
  rw [arrowList]
  generalize withoutClosing (trimEnd before) = list at hbehind
  unfold withoutOpening
  split
  next rest => exact absurd ⟨rest ++ behind, hbehind.symm⟩ hbefore
  next => rfl

/-! ### The end of the list -/

/-- The text starts with an arrow, with at most one closing parenthesis and blanks before it. -/
def StartsWithArrow (text : Text) : Prop :=
  ∃ closing gap behind, (closing = [] ∨ closing = [')']) ∧ OnlyBlanks gap ∧
    text = closing ++ gap ++ (arrow ++ behind)

/-- Blanks before an arrow are passed. -/
theorem capture_blanks_arrow (text captured : Text) :
    Pattern.capture (blanks ++ Pattern.word "=>") text = some captured ↔
      captured = [] ∧ ∃ gap behind, OnlyBlanks gap ∧ text = gap ++ (arrow ++ behind) := by
  have harrow (rest found : Text) : Pattern.capture (Pattern.word "=>") rest = some found ↔
      found = [] ∧ ∃ behind, rest = arrow ++ behind := by
    rw [← List.append_nil (Pattern.word "=>"), Pattern.capture_word_append]
    constructor
    · rintro ⟨behind, rfl, hfound⟩
      exact ⟨(Option.some.inj hfound).symm, behind, rfl⟩
    · rintro ⟨rfl, behind, rfl⟩
      exact ⟨behind, rfl, rfl⟩
  have hfew : Pattern.capture (blanks ++ Pattern.word "=>") text = some captured ↔ _ :=
    Piece.few_eq_some_iff_of_disjoint ?_
  · rw [hfew]
    constructor
    · rintro ⟨gap, rest, found, hstops, rfl⟩
      obtain ⟨rfl, behind, rfl⟩ := (harrow rest found).mp hstops.following_eq
      exact ⟨Piece.foldr_collect_of_not_kept rfl gap [], gap, behind, hstops.holds, hstops.text_eq⟩
    · rintro ⟨rfl, gap, behind, hgap, rfl⟩
      refine ⟨gap, arrow ++ behind, [], ⟨rfl, hgap, (harrow _ _).mpr ⟨rfl, behind, rfl⟩⟩, ?_⟩
      rw [Piece.foldr_collect_of_not_kept rfl]
  · intro character rest found hfound
    obtain ⟨-, behind, hbehind⟩ := (harrow _ _).mp hfound
    rw [(List.cons.inj hbehind).1]
    decide

/-- From the closing parenthesis on the pattern matches where an arrow starts. -/
theorem capture_arrow_end (text captured : Text) :
    Pattern.capture (⟨.only ')', .optional, false⟩ :: (blanks ++ Pattern.word "=>")) text =
      some captured ↔ captured = [] ∧ StartsWithArrow text := by
  rw [Pattern.capture_optional_iff]
  constructor
  · rintro (⟨character, rest, rfl, hclosing, hfound⟩ | ⟨-, hfound⟩)
    · obtain ⟨rfl, gap, behind, hgap, rfl⟩ := (capture_blanks_arrow _ _).mp hfound
      have hcharacter : character = ')' := by simpa [CharClass.holds] using hclosing
      exact ⟨rfl, [')'], gap, behind, Or.inr rfl, hgap, by rw [hcharacter]; rfl⟩
    · obtain ⟨rfl, gap, behind, hgap, rfl⟩ := (capture_blanks_arrow _ _).mp hfound
      exact ⟨rfl, [], gap, behind, Or.inl rfl, hgap, rfl⟩
  · rintro ⟨rfl, closing, gap, behind, hclosing, hgap, rfl⟩
    rcases hclosing with rfl | rfl
    · right
      refine ⟨?_, (capture_blanks_arrow _ _).mpr ⟨rfl, gap, behind, hgap, rfl⟩⟩
      intro character rest hsplit hholds
      have hcharacter : character = ')' := by simpa [CharClass.holds] using hholds
      rw [hcharacter] at hsplit
      cases gap with
      | nil => exact absurd (List.cons.inj hsplit).1 (by decide)
      | cons first others =>
        have hfirst := hgap first (by simp)
        rw [(List.cons.inj hsplit).1] at hfirst
        exact absurd hfirst (by decide)
    · exact Or.inl ⟨')', gap ++ (arrow ++ behind), rfl, by decide,
        (capture_blanks_arrow _ _).mpr ⟨rfl, gap, behind, hgap, rfl⟩⟩

/-- What stands right before the arrow of a match holds no other arrow, so the match uses the first
one of the text that is left. -/
theorem cut?_of_startsWithArrow (hstarts : StartsWithArrow text) :
    ∃ closing gap behind, (closing = [] ∨ closing = [')']) ∧ OnlyBlanks gap ∧
      cut? arrow text = some (closing ++ gap, behind) := by
  obtain ⟨closing, gap, behind, hclosing, hgap, rfl⟩ := hstarts
  refine ⟨closing, gap, behind, hclosing, hgap, ?_⟩
  have habsent : '=' ∉ closing ++ gap := by
    rw [List.mem_append, not_or]
    refine ⟨?_, hgap.not_mem (by decide)⟩
    rcases hclosing with rfl | rfl <;> simp
  rw [arrow, cut?_append_left habsent, cut?_of_isPrefix (List.prefix_append _ _)]
  simp

/-- A character in the middle of the list keeps an arrow from starting: neither the closing
parenthesis nor the blanks that may stand before an arrow reach over the end of the list. -/
theorem not_startsWithArrow {passed later : Text}
    (hcut : cut? arrow text = some (before, after))
    (hlist : withoutClosing (trimEnd before) = passed ++ later) (hlater : later ≠ [])
    {rest : Text} (htext : text = passed ++ rest) : ¬ StartsWithArrow rest := by
  intro hstarts
  obtain ⟨closing', gap', behind, hclosing, hgap, hrest⟩ := cut?_of_startsWithArrow hstarts
  obtain ⟨trail, htrail, hbefore⟩ := exists_trimEnd before
  rcases exists_withoutClosing (trimEnd before) with hend | ⟨hend, hlast⟩
  · -- The parenthesis that ends the text before the arrow would have to be one of the blanks.
    have hsame : closing' ++ gap' = later ++ [')'] ++ trail := by
      have hshorter : cut? arrow rest = some (later ++ [')'] ++ trail, after) := by
        apply cut?_of_cut?_append
        rw [← htext, hcut, hbefore, hend, hlist]
        simp
      rw [hrest, Option.some.injEq, Prod.mk.injEq] at hshorter
      exact hshorter.1
    obtain ⟨first, others, rfl⟩ := List.exists_cons_of_ne_nil hlater
    have hmem : ')' ∈ gap' := by
      rcases hclosing with rfl | rfl
      · rw [List.nil_append] at hsame
        rw [hsame]
        simp
      · simp only [List.cons_append, List.nil_append, List.cons.injEq] at hsame
        rw [hsame.2]
        simp
    exact hgap.not_mem (by decide) hmem
  · -- The last character of the list is neither a closing parenthesis nor a blank.
    have hsame : closing' ++ gap' = later ++ trail := by
      have hshorter : cut? arrow rest = some (later ++ trail, after) := by
        apply cut?_of_cut?_append
        rw [← htext, hcut, hbefore, hend, hlist]
        simp
      rw [hrest, Option.some.injEq, Prod.mk.injEq] at hshorter
      exact hshorter.1
    obtain ⟨front, last, rfl⟩ := (List.eq_nil_or_concat later).resolve_left hlater
    rw [List.concat_eq_append] at hlist hsame
    rw [hlist, ← List.append_assoc] at hend
    have hblank : isBlank last = false := isBlank_of_trimEnd_eq hend
    have hmem : last ∈ closing' ++ gap' := by
      rw [hsame]
      simp
    rcases List.mem_append.mp hmem with hmem | hmem
    · rcases hclosing with rfl | rfl
      · exact absurd hmem (by simp)
      · rw [List.mem_singleton] at hmem
        rw [hend, hmem] at hlast
        exact hlast (by simp)
    · exact hgap.not_mem hblank hmem

/-- Behind the list an arrow starts. -/
theorem exists_startsWithArrow (hcut : cut? arrow text = some (before, after)) :
    ∃ rest, text = withoutClosing (trimEnd before) ++ rest ∧ StartsWithArrow rest := by
  obtain ⟨trail, htrail, hbefore⟩ := exists_trimEnd before
  have htext : text = before ++ arrow ++ after := cut?_eq_some hcut
  obtain ⟨closing, hclosing, hend⟩ : ∃ closing, (closing = [] ∨ closing = [')']) ∧
      trimEnd before = withoutClosing (trimEnd before) ++ closing := by
    rcases exists_withoutClosing (trimEnd before) with hend | ⟨hend, -⟩
    · exact ⟨[')'], Or.inr rfl, hend⟩
    · exact ⟨[], Or.inl rfl, by rwa [List.append_nil]⟩
  refine ⟨closing ++ trail ++ (arrow ++ after), ?_, closing, trail, after, hclosing, htrail, rfl⟩
  calc text = trimEnd before ++ trail ++ arrow ++ after := by rw [← hbefore, htext]
    _ = withoutClosing (trimEnd before) ++ closing ++ trail ++ arrow ++ after := by rw [← hend]
    _ = withoutClosing (trimEnd before) ++ (closing ++ trail ++ (arrow ++ after)) := by
      simp only [List.append_assoc]

/-- No match stops before the end of the list. -/
theorem isPrefix_of_startsWithArrow {passed rest : Text}
    (hcut : cut? arrow text = some (before, after)) (htext : text = passed ++ rest)
    (hstarts : StartsWithArrow rest) : withoutClosing (trimEnd before) <+: passed := by
  obtain ⟨behind, hlist, -⟩ := exists_startsWithArrow hcut
  have hwhole : passed <+: text := ⟨rest, htext.symm⟩
  rcases List.prefix_or_prefix_of_prefix ⟨behind, hlist.symm⟩ hwhole with
    hshorter | ⟨later, hlater⟩
  · exact hshorter
  · by_cases hempty : later = []
    · rw [hempty, List.append_nil] at hlater
      exact ⟨[], (List.append_nil _).trans hlater.symm⟩
    · exact absurd hstarts (not_startsWithArrow hcut hlater.symm hempty htext)

/-! ### What the pattern captures -/

/-- The pieces that read the list and the arrow, behind the optional opening parenthesis. -/
def captureList : Text → Option Text :=
  Piece.few ⟨.except '\n', .fewest, true⟩
    (Pattern.capture (⟨.only ')', .optional, false⟩ :: (blanks ++ Pattern.word "=>")))

/-- Without an arrow there is no match. -/
theorem captureList_of_cut_eq_none (hcut : cut? arrow text = none) : captureList text = none := by
  rw [captureList, Piece.few_eq_none_iff]
  intro passed rest found hstops
  obtain ⟨-, closing, gap, behind, -, -, hrest⟩ :=
    (capture_arrow_end rest found).mp hstops.following_eq
  rw [cut?_eq_none_iff] at hcut
  refine hcut ⟨passed ++ (closing ++ gap), behind, ?_⟩
  rw [hstops.text_eq, hrest]
  simp only [List.append_assoc]

/-- The list reaches from the start of the text to the closing parenthesis or the blanks before the
first arrow. -/
theorem captureList_of_cut_eq_some (hcut : cut? arrow text = some (before, after)) :
    captureList text =
      if '\n' ∈ withoutClosing (trimEnd before) then none
      else some (withoutClosing (trimEnd before)) := by
  obtain ⟨behind, hsplit, hstarts⟩ := exists_startsWithArrow hcut
  by_cases honLine : '\n' ∈ withoutClosing (trimEnd before)
  · rw [if_pos honLine, captureList, Piece.few_eq_none_iff]
    intro passed rest found hstops
    have hshorter := isPrefix_of_startsWithArrow hcut hstops.text_eq
      ((capture_arrow_end rest found).mp hstops.following_eq).2
    have hread := hstops.holds
    rw [CharClass.holds_except_iff] at hread
    exact hread (hshorter.subset honLine)
  · rw [if_neg honLine, captureList]
    have hstops : Piece.Stops ⟨.except '\n', .fewest, true⟩
        (Pattern.capture (⟨.only ')', .optional, false⟩ :: (blanks ++ Pattern.word "=>"))) text
        (withoutClosing (trimEnd before)) behind [] :=
      ⟨hsplit, (CharClass.holds_except_iff '\n' _).mpr honLine,
        (capture_arrow_end behind []).mpr ⟨rfl, hstarts⟩⟩
    have hfew := Piece.few_eq_some_of_stops hstops ?_
    · rw [Piece.foldr_collect_of_kept rfl, List.append_nil] at hfew
      exact hfew
    · intro earlier later hlist hlater
      rw [Option.eq_none_iff_forall_ne_some]
      intro found hother
      refine not_startsWithArrow hcut hlist hlater ?_ ((capture_arrow_end _ found).mp hother).2
      rw [← List.append_assoc, ← hlist]
      exact hsplit

/-- An opening parenthesis at the start is read, and the list starts behind it. -/
theorem one_opening (text : Text) :
    Piece.one ⟨.only '(', .optional, false⟩ captureList ('(' :: text) = captureList text := by
  cases hlist : captureList text <;> simp [Piece.one, CharClass.holds, Piece.collect, hlist]

/-- No other character is read in its place. -/
theorem one_opening_eq_none (htext : ¬ ∃ rest, text = '(' :: rest) :
    Piece.one ⟨.only '(', .optional, false⟩ captureList text = none := by
  rw [Option.eq_none_iff_forall_ne_some]
  intro list hone
  obtain ⟨character, rest, hsplit, hopening, -⟩ := (Piece.one_eq_some_iff rfl).mp hone
  have hcharacter : character = '(' := by simpa [CharClass.holds] using hopening
  exact htext ⟨rest, by rw [hsplit, hcharacter]⟩

/-- No arrow starts with an opening parenthesis. -/
theorem cut?_arrow_cons (rest : Text) :
    cut? arrow ('(' :: rest) = (cut? arrow rest).map fun parts ↦ ('(' :: parts.1, parts.2) := by
  rw [← List.singleton_append, arrow, cut?_append_left (by decide)]
  rfl

/-- An opening parenthesis that is not read as the optional one belongs to the list, and nothing
else changes: the list is on one line with it as without it. -/
theorem captureList_cons (rest : Text) :
    captureList ('(' :: rest) = (captureList rest).map ('(' :: ·) := by
  have hcut := cut?_arrow_cons rest
  cases hinside : cut? arrow rest with
  | none =>
    rw [hinside] at hcut
    rw [captureList_of_cut_eq_none hinside, captureList_of_cut_eq_none hcut]
    rfl
  | some parts =>
    rw [hinside] at hcut
    rw [captureList_of_cut_eq_some hinside, captureList_of_cut_eq_some hcut,
      trimEnd_cons (by decide), withoutClosing_cons (by decide)]
    by_cases honLine : '\n' ∈ withoutClosing (trimEnd parts.1)
    · rw [if_pos honLine, if_pos (List.mem_cons_of_mem _ honLine), Option.map_none]
    · have hlonger : '\n' ∉ '(' :: withoutClosing (trimEnd parts.1) := by simpa using honLine
      rw [if_neg honLine, if_neg hlonger, Option.map_some]

/-- The pattern captures the list before the first arrow when it is on one line. Giving up the
optional parenthesis does not help where the list without it is on more lines. -/
theorem capture_arrowPattern (text : Text) :
    Pattern.capture arrowPattern text =
      (cut? arrow text).bind fun parts ↦
        if '\n' ∈ arrowList parts.1 then none else some (arrowList parts.1) := by
  have hpattern : Pattern.capture arrowPattern text =
      (Piece.one ⟨.only '(', .optional, false⟩ captureList text).or (captureList text) := rfl
  rw [hpattern]
  by_cases hopening : ∃ rest, text = '(' :: rest
  · obtain ⟨rest, rfl⟩ := hopening
    have hfirst : (captureList rest).or (captureList ('(' :: rest)) = captureList rest := by
      rw [captureList_cons]
      cases captureList rest <;> rfl
    rw [one_opening, hfirst, cut?_arrow_cons]
    cases hinside : cut? arrow rest with
    | none => rw [captureList_of_cut_eq_none hinside]; rfl
    | some parts =>
      rw [captureList_of_cut_eq_some hinside, Option.map_some, Option.bind_some, arrowList_cons]
  · rw [one_opening_eq_none hopening, Option.none_or]
    cases hcut : cut? arrow text with
    | none => exact captureList_of_cut_eq_none hcut
    | some parts =>
      have hbefore : ¬ ∃ rest, parts.1 = '(' :: rest := by
        rintro ⟨rest, hrest⟩
        refine hopening ⟨rest ++ arrow ++ parts.2, ?_⟩
        rw [cut?_eq_some hcut, hrest]
        rfl
      rw [captureList_of_cut_eq_some hcut, Option.bind_some, arrowList_eq_of_not_opening hbefore]

/-! ### Written arrow functions -/

/-- The list found by the pattern, trimmed. -/
theorem capture_arrow_of_cut (hcut : cut? arrow text = some (before, after))
    (honLine : '\n' ∉ arrowList before) :
    capture .arrowFunction text = some (trim (arrowList before)) := by
  rw [capture_eq, pattern, capture_arrowPattern, hcut, Option.bind_some, if_neg honLine,
    Option.map_some]

/-- A text without an arrow is no arrow function. -/
theorem capture_arrow_eq_none (htext : ¬ arrow <:+: text) : capture .arrowFunction text = none := by
  rw [capture_eq, pattern, capture_arrowPattern, cut?_eq_none_iff.mpr htext]
  rfl

/-- On one line an arrow is all that is needed. -/
theorem exists_capture_arrow (honLine : '\n' ∉ text) (htext : arrow <:+: text) :
    ∃ list, capture .arrowFunction text = some (trim list) := by
  cases hcut : cut? arrow text with
  | none => exact absurd htext (cut?_eq_none_iff.mp hcut)
  | some parts =>
    obtain ⟨before, after⟩ := parts
    refine ⟨_, capture_arrow_of_cut hcut ?_⟩
    intro hmem
    apply honLine
    rw [cut?_eq_some hcut, List.append_assoc, List.mem_append]
    exact Or.inl (mem_of_mem_arrowList hmem)

/-- The first arrow stays the first one whatever is put behind it. -/
theorem capture_arrow_append {list : Text} (hcapture : capture .arrowFunction text = some list)
    (behind : Text) : capture .arrowFunction (text ++ behind) = some list := by
  rw [capture_eq, pattern, capture_arrowPattern] at hcapture ⊢
  cases hcut : cut? arrow text with
  | none =>
    rw [hcut] at hcapture
    exact absurd hcapture (by simp)
  | some parts =>
    rw [cut?_append_right hcut behind]
    rw [hcut] at hcapture
    exact hcapture

/-- An arrow function with its list in parentheses: the list, the blanks before the arrow, and what
follows it. -/
def arrowText (list gap behind : Text) : Text :=
  '(' :: (list ++ ')' :: (gap ++ (arrow ++ behind)))

theorem trimStart_arrowText (list gap behind : Text) :
    trimStart (arrowText list gap behind) = arrowText list gap behind :=
  trimStart_cons (by decide)

/-- The list between the parentheses is captured when it holds no arrow. -/
theorem capture_arrowText {list gap : Text} (honLine : '\n' ∉ list) (hlist : ¬ arrow <:+: list)
    (hgap : OnlyBlanks gap) (behind : Text) :
    capture .arrowFunction (arrowText list gap behind) = some (trim list) := by
  have hbefore : ¬ arrow <:+: '(' :: (list ++ ')' :: gap) := by
    have hparts : '(' :: (list ++ ')' :: gap) = ['('] ++ (list ++ ([')'] ++ gap)) := rfl
    rw [hparts]
    have hequals : '=' ∉ gap := hgap.not_mem (by decide)
    have hclosing : ¬ arrow <:+: [')'] ++ gap :=
      not_pair_isInfix_of_not_mem (Or.inl (by simp [hequals]))
    apply not_pair_isInfix_append (not_pair_isInfix_of_not_mem (by decide)) _ (by simp)
    exact not_pair_isInfix_append hlist hclosing (by simp)
  have hcut : cut? arrow (arrowText list gap behind) =
      some ('(' :: (list ++ ')' :: gap), behind) := by
    have hfirst := @cut?_pair _ behind '=' '>' (by decide) hbefore
    simpa [arrowText, arrow] using hfirst
  have hinside : arrowList ('(' :: (list ++ ')' :: gap)) = list := by
    rw [arrowList_cons, trimEnd_append_cons (by decide), trimEnd_eq_nil hgap,
      withoutClosing_concat]
  rw [capture_arrow_of_cut hcut (by rwa [hinside]), hinside]

end DeclaredParams.Shape
