import DeclaredParams.Text.Basic

/-!
# First occurrences of a separator

`cut?` divides a text around the first occurrence of a separator. Here that is said without the
scan: `cut?_eq_none_iff` says when there is no division and `cut?_eq_some_iff` which of the
occurrences is taken. `cut?_of_occursFirstAt` says it by the position at which the separator starts.
The rest of the module divides texts that are put together from parts. A separator of two different
characters cannot overlap itself, so a part that does not hold it may stand before it (`cut?_pair`),
and a part that shares no occurrence with a text may stand on either side of it without moving the
division (`cut?_append_left`, `cut?_pair_append_left`, `cut?_pair_append_right`).
-/

set_option autoImplicit false
set_option relaxedAutoImplicit false

namespace DeclaredParams.Text

variable {separator text before after : Text}

/-! ### The scan -/

/-- The characters already passed stand in front of the first part. -/
theorem cutFrom_eq_map (separator passed text : Text) :
    cutFrom separator passed text =
      (cut? separator text).map fun parts ↦ (passed.reverse ++ parts.1, parts.2) := by
  induction text generalizing passed with
  | nil =>
    unfold cut? cutFrom
    by_cases hseparator : separator.isPrefixOf [] <;> simp [hseparator]
  | cons character rest ih =>
    unfold cut?
    rw [cutFrom, cutFrom]
    by_cases hseparator : separator.isPrefixOf (character :: rest)
    · simp [hseparator]
    · simp only [hseparator, Bool.false_eq_true, ↓reduceIte]
      rw [ih (character :: passed), ih [character], Option.map_map]
      congr 1
      funext parts
      simp

/-- A separator at the start of a text is its first occurrence. -/
theorem cut?_of_isPrefix (hseparator : separator <+: text) :
    cut? separator text = some ([], text.drop separator.length) := by
  unfold cut?
  rw [cutFrom.eq_def, if_pos (List.isPrefixOf_iff_prefix.mpr hseparator)]
  rfl

/-- Where the separator does not stand at the start, the first character is passed. -/
theorem cut?_cons_of_not_isPrefix {character : Char} {rest : Text}
    (hseparator : ¬ separator <+: character :: rest) :
    cut? separator (character :: rest) =
      (cut? separator rest).map fun parts ↦ (character :: parts.1, parts.2) := by
  have hscan : separator.isPrefixOf (character :: rest) = false := by
    rw [← Bool.not_eq_true, List.isPrefixOf_iff_prefix]
    exact hseparator
  have hstep : cut? separator (character :: rest) = cutFrom separator [character] rest := by
    unfold cut?
    rw [cutFrom, hscan]
    rfl
  rw [hstep, cutFrom_eq_map]
  rfl

/-! ### Which occurrence is the first -/

/-- A text has no division exactly when the separator does not occur in it. -/
theorem cut?_eq_none_iff : cut? separator text = none ↔ ¬ separator <:+: text := by
  induction text with
  | nil =>
    by_cases hseparator : separator <+: []
    · rw [cut?_of_isPrefix hseparator]
      simp [hseparator.isInfix]
    · have hscan : cut? separator [] = none := by
        unfold cut? cutFrom
        rw [if_neg (by rwa [List.isPrefixOf_iff_prefix])]
      simpa [hscan] using hseparator
  | cons character rest ih =>
    by_cases hseparator : separator <+: character :: rest
    · rw [cut?_of_isPrefix hseparator]
      simp [hseparator.isInfix]
    · rw [cut?_cons_of_not_isPrefix hseparator, Option.map_eq_none_iff, ih, List.infix_cons_iff]
      simp [hseparator]

/-- A separator that does not start further to the left is the first occurrence. -/
theorem cut?_append_of_first
    (hfirst : ∀ earlier later, before = earlier ++ later → later ≠ [] →
      ¬ separator <+: later ++ separator ++ after) :
    cut? separator (before ++ separator ++ after) = some (before, after) := by
  induction before with
  | nil =>
    rw [List.nil_append, cut?_of_isPrefix (List.prefix_append _ _), List.drop_left]
  | cons character others ih =>
    have hrest := ih fun earlier later hsplit ↦
      hfirst (character :: earlier) later (by rw [hsplit, List.cons_append])
    have hstart := hfirst [] (character :: others) rfl (by simp)
    rw [List.cons_append, List.cons_append] at hstart ⊢
    rw [cut?_cons_of_not_isPrefix hstart, hrest]
    rfl

/-- The division is not further to the right than any occurrence of the separator. -/
theorem length_le_of_cut?_append {earlier : Text}
    (hcut : cut? separator (earlier ++ text) = some (before, after))
    (hseparator : separator <+: text) : before.length ≤ earlier.length := by
  induction earlier generalizing before with
  | nil =>
    rw [List.nil_append, cut?_of_isPrefix hseparator, Option.some.injEq, Prod.mk.injEq] at hcut
    obtain ⟨rfl, -⟩ := hcut
    exact Nat.le_refl _
  | cons character others ih =>
    rw [List.cons_append] at hcut
    by_cases hstart : separator <+: character :: (others ++ text)
    · rw [cut?_of_isPrefix hstart, Option.some.injEq, Prod.mk.injEq] at hcut
      obtain ⟨rfl, -⟩ := hcut
      exact Nat.zero_le _
    · rw [cut?_cons_of_not_isPrefix hstart, Option.map_eq_some_iff] at hcut
      obtain ⟨⟨front, behind⟩, hrest, hparts⟩ := hcut
      rw [Prod.mk.injEq] at hparts
      obtain ⟨rfl, rfl⟩ := hparts
      exact Nat.succ_le_succ (ih hrest)

/-- What stands behind an occurrence of the separator stands behind the first one. -/
theorem isSuffix_of_cut?_append {earlier later : Text}
    (hcut : cut? separator (earlier ++ separator ++ later) = some (before, after)) :
    later <:+ after := by
  have hwhole := cut?_eq_some hcut
  have hbefore : before.length ≤ earlier.length := by
    rw [List.append_assoc] at hcut
    exact length_le_of_cut?_append hcut (List.prefix_append _ _)
  have hlater : later <:+ before ++ separator ++ after := ⟨earlier ++ separator, hwhole⟩
  apply List.suffix_of_suffix_length_le hlater (List.suffix_append _ _)
  have hlength := congrArg List.length hwhole
  simp only [List.length_append] at hlength
  omega

/-- The division taken is the one with nothing of the separator starting further to the left. -/
theorem cut?_eq_some_iff :
    cut? separator text = some (before, after) ↔
      text = before ++ separator ++ after ∧
        ∀ earlier later, before = earlier ++ later → later ≠ [] →
          ¬ separator <+: later ++ separator ++ after := by
  constructor
  · intro hcut
    have htext := cut?_eq_some hcut
    refine ⟨htext, ?_⟩
    rintro earlier later rfl hlater hseparator
    have hsplit : text = earlier ++ (later ++ separator ++ after) := by
      rw [htext]
      simp only [List.append_assoc]
    rw [hsplit] at hcut
    have hlength := length_le_of_cut?_append hcut hseparator
    rw [List.length_append] at hlength
    exact hlater (List.length_eq_zero_iff.mp (by omega))
  · rintro ⟨rfl, hfirst⟩
    exact cut?_append_of_first hfirst

/-- What stands before the first occurrence does not hold the separator. -/
theorem not_isInfix_of_cut? (hne : separator ≠ [])
    (hcut : cut? separator text = some (before, after)) : ¬ separator <:+: before := by
  rintro ⟨earlier, later, rfl⟩
  have hsplit : text = earlier ++ (separator ++ (later ++ (separator ++ after))) := by
    rw [cut?_eq_some hcut]
    simp only [List.append_assoc]
  rw [hsplit] at hcut
  have hlength := length_le_of_cut?_append hcut (List.prefix_append _ _)
  simp only [List.length_append] at hlength
  exact hne (List.length_eq_zero_iff.mp (by omega))

/-- Behind a part of what precedes it, the first occurrence is still the first one. -/
theorem cut?_of_cut?_append {front : Text}
    (hcut : cut? separator (front ++ text) = some (front ++ before, after)) :
    cut? separator text = some (before, after) := by
  rw [cut?_eq_some_iff] at hcut ⊢
  obtain ⟨htext, hfirst⟩ := hcut
  constructor
  · simpa using htext
  · intro earlier later hsplit
    exact hfirst (front ++ earlier) later (by rw [hsplit, List.append_assoc])

/-! ### Positions -/

/-- The separator starts at a position of the text, and at none before it. -/
structure OccursFirstAt (separator text : Text) (position : Nat) : Prop where
  isPrefix : separator <+: text.drop position
  not_isPrefix : ∀ earlier < position, ¬ separator <+: text.drop earlier

/-- The text is divided at the position where the separator starts first. -/
theorem cut?_of_occursFirstAt {position : Nat} (hfirst : OccursFirstAt separator text position) :
    cut? separator text =
      some (text.take position, text.drop (position + separator.length)) := by
  obtain ⟨after, hafter⟩ := hfirst.isPrefix
  have hbehind : text.drop (position + separator.length) = after := by
    rw [← List.drop_drop, ← hafter, List.drop_left]
  rw [hbehind, cut?_eq_some_iff]
  constructor
  · rw [List.append_assoc, hafter, List.take_append_drop]
  · intro earlier later hsplit hlater hstarts
    have hlength : earlier.length + later.length ≤ position := by
      have htake := congrArg List.length hsplit
      rw [List.length_take, List.length_append] at htake
      omega
    have hsome : 0 < later.length := List.length_pos_iff.mpr hlater
    refine hfirst.not_isPrefix earlier.length (by omega) ?_
    have hdrop : text.drop earlier.length = later ++ separator ++ after := by
      rw [← List.take_append_drop position text, hsplit, ← hafter]
      simp only [List.append_assoc, List.drop_left]
    rwa [hdrop]

/-- Where the text is divided the separator starts first. -/
theorem occursFirstAt_of_cut? (hcut : cut? separator text = some (before, after)) :
    OccursFirstAt separator text before.length := by
  obtain ⟨rfl, hfirst⟩ := cut?_eq_some_iff.mp hcut
  constructor
  · rw [List.append_assoc, List.drop_left]
    exact List.prefix_append _ _
  · intro earlier hearlier
    have hsplit := (List.take_append_drop earlier before).symm
    have hlater : before.drop earlier ≠ [] := by
      rw [← List.length_pos_iff, List.length_drop]
      omega
    rw [List.append_assoc, List.drop_append_of_le_length (by omega), ← List.append_assoc]
    exact hfirst _ _ hsplit hlater

/-! ### Texts made of parts -/

/-- Text put behind comes after the division. -/
theorem cut?_append_right (hcut : cut? separator text = some (before, after)) (behind : Text) :
    cut? separator (text ++ behind) = some (before, after ++ behind) := by
  rw [cut?_eq_some_iff] at hcut ⊢
  obtain ⟨htext, hfirst⟩ := hcut
  constructor
  · rw [htext, List.append_assoc]
  · intro earlier later hbefore hlater hstarts
    refine hfirst earlier later hbefore hlater ?_
    rw [← List.append_assoc] at hstarts
    apply List.prefix_of_prefix_length_le hstarts (List.prefix_append _ _)
    simp only [List.length_append]
    omega

/-- A part without the first character of the separator may stand in front. -/
theorem cut?_append_left {first : Char} {others front : Text} (hfront : first ∉ front) :
    cut? (first :: others) (front ++ text) =
      (cut? (first :: others) text).map fun parts ↦ (front ++ parts.1, parts.2) := by
  induction front with
  | nil => simp
  | cons character rest ih =>
    rw [List.mem_cons, not_or] at hfront
    have hseparator : ¬ first :: others <+: character :: (rest ++ text) := by
      rw [List.cons_prefix_cons]
      exact fun hstarts ↦ hfront.1 hstarts.1
    rw [List.cons_append, cut?_cons_of_not_isPrefix hseparator, ih hfront.2, Option.map_map]
    rfl

/-- The first occurrence of one character follows a part without it. -/
theorem cut?_single {character : Char} (hbefore : character ∉ before) :
    cut? [character] (before ++ character :: after) = some (before, after) := by
  rw [cut?_append_left hbefore, cut?_of_isPrefix (by simp)]
  simp

/-- A character divides a text in one way only when it is missing from what stands before. -/
theorem append_cons_inj_of_not_mem {character : Char} {front other behind rest : Text}
    (hfront : character ∉ front) (hother : character ∉ other)
    (hsame : front ++ character :: behind = other ++ character :: rest) :
    front = other ∧ behind = rest := by
  have hcut : cut? [character] (front ++ character :: behind) = some (front, behind) :=
    cut?_single hfront
  rw [hsame, cut?_single hother, Option.some.injEq, Prod.mk.injEq] at hcut
  exact ⟨hcut.1.symm, hcut.2.symm⟩

/-- A separator that does not go on with the first character of the second part does not reach
into it. -/
theorem isPrefix_of_isPrefix_append {separator front behind : Text}
    (hbehind : ∀ character ∈ behind.head?, character ∉ separator)
    (hseparator : separator <+: front ++ behind) : separator <+: front := by
  rcases List.prefix_or_prefix_of_prefix hseparator (List.prefix_append front behind) with
    hinside | ⟨part, rfl⟩
  · exact hinside
  · cases part with
    | nil => simp
    | cons first others =>
      obtain ⟨rest, rfl⟩ := (List.prefix_append_right_inj front).mp hseparator
      exact absurd (by simp) (hbehind first rfl)

section Pair

variable {first second : Char}

/-- A separator of two different characters does not overlap itself, so it occurs first after a
part that does not hold it. -/
theorem cut?_pair (hdistinct : first ≠ second) (hbefore : ¬ [first, second] <:+: before) :
    cut? [first, second] (before ++ first :: second :: after) = some (before, after) := by
  induction before with
  | nil =>
    rw [cut?_of_isPrefix (by simp)]
    simp
  | cons character rest ih =>
    rw [List.infix_cons_iff, not_or] at hbefore
    have hseparator : ¬ [first, second] <+: character :: (rest ++ first :: second :: after) := by
      intro hstarts
      rw [List.cons_prefix_cons] at hstarts
      obtain ⟨rfl, hsecond⟩ := hstarts
      cases rest with
      | nil =>
        rw [List.nil_append, List.cons_prefix_cons] at hsecond
        exact hdistinct hsecond.1.symm
      | cons next others =>
        rw [List.cons_append, List.cons_prefix_cons] at hsecond
        exact hbefore.1 (by simp [hsecond.1])
    rw [List.cons_append, cut?_cons_of_not_isPrefix hseparator, ih hbefore.2]
    rfl

/-- A part without the second character of the separator may stand behind. -/
theorem cut?_pair_append_right {behind : Text} (hbehind : second ∉ behind) :
    cut? [first, second] (text ++ behind) =
      (cut? [first, second] text).map fun parts ↦ (parts.1, parts.2 ++ behind) := by
  induction text with
  | nil =>
    have hnone : cut? [first, second] behind = none := by
      rw [cut?_eq_none_iff]
      exact fun hoccurs ↦ hbehind (hoccurs.subset (by simp))
    have hempty : cut? [first, second] [] = none := by
      rw [cut?_eq_none_iff]
      simp
    rw [List.nil_append, hnone, hempty]
    rfl
  | cons character rest ih =>
    by_cases hseparator : [first, second] <+: character :: rest
    · have hlonger : [first, second] <+: character :: rest ++ behind :=
        hseparator.trans (List.prefix_append _ _)
      rw [cut?_of_isPrefix hseparator, cut?_of_isPrefix hlonger,
        List.drop_append_of_le_length hseparator.length_le]
      rfl
    · have hlonger : ¬ [first, second] <+: character :: (rest ++ behind) := by
        intro hstarts
        cases rest with
        | nil =>
          rw [List.nil_append, List.cons_prefix_cons] at hstarts
          exact hbehind (hstarts.2.subset (by simp))
        | cons next others =>
          refine hseparator ?_
          simpa using hstarts
      rw [List.cons_append, cut?_cons_of_not_isPrefix hlonger,
        cut?_cons_of_not_isPrefix hseparator, ih, Option.map_map, Option.map_map]
      rfl

/-- Two characters stand together in neither part and not across the seam, so they do not stand
together in the whole. -/
theorem not_pair_isInfix_append {front behind : Text} (hfront : ¬ [first, second] <:+: front)
    (hbehind : ¬ [first, second] <:+: behind)
    (hseam : first ∉ front.getLast? ∨ second ∉ behind.head?) :
    ¬ [first, second] <:+: front ++ behind := by
  induction front with
  | nil => rwa [List.nil_append]
  | cons character rest ih =>
    rw [List.infix_cons_iff, not_or] at hfront
    have hrest : ¬ [first, second] <:+: rest ++ behind := by
      apply ih hfront.2
      cases rest with
      | nil => exact Or.inl (by simp)
      | cons next others => rwa [List.getLast?_cons_cons] at hseam
    rw [List.cons_append, List.infix_cons_iff, not_or]
    refine ⟨?_, hrest⟩
    intro hstarts
    cases rest with
    | nil =>
      obtain ⟨rfl, others, rfl⟩ : first = character ∧ ∃ others, behind = second :: others := by
        obtain ⟨others, hothers⟩ := hstarts
        simp only [List.cons_append, List.nil_append, List.cons.injEq] at hothers
        exact ⟨hothers.1, others, hothers.2.symm⟩
      simp at hseam
    | cons next others =>
      refine hfront.1 ?_
      simpa using hstarts

/-- A part that does not hold the separator and does not end with its first character may stand in
front. -/
theorem cut?_pair_append_left {front : Text} (hdistinct : first ≠ second)
    (hfront : ¬ [first, second] <:+: front) (hseam : first ∉ front.getLast?) :
    cut? [first, second] (front ++ text) =
      (cut? [first, second] text).map fun parts ↦ (front ++ parts.1, parts.2) := by
  cases hcut : cut? [first, second] text with
  | none =>
    rw [Option.map_none, cut?_eq_none_iff]
    exact not_pair_isInfix_append hfront (cut?_eq_none_iff.mp hcut) (Or.inl hseam)
  | some parts =>
    have hbefore : ¬ [first, second] <:+: front ++ parts.1 :=
      not_pair_isInfix_append hfront (not_isInfix_of_cut? (by simp) hcut) (Or.inl hseam)
    rw [cut?_eq_some hcut, Option.map_some]
    simpa using cut?_pair hdistinct hbefore

/-- Two characters do not stand together in a text without one of them. -/
theorem not_pair_isInfix_of_not_mem (htext : first ∉ text ∨ second ∉ text) :
    ¬ [first, second] <:+: text := by
  intro hoccurs
  rcases htext with hfirst | hsecond
  · exact hfirst (List.IsInfix.subset hoccurs (by simp))
  · exact hsecond (List.IsInfix.subset hoccurs (by simp))

end Pair

end DeclaredParams.Text
