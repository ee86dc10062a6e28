import DeclaredParams.Pattern.Basic

/-!
# Which match is preferred

A piece that reads any number of characters can stop after each of them. `Piece.Stops` is one such
way to match, said without the search: what is passed, what is left, and what the following pieces
capture there. `few_eq_some_iff` and `many_eq_some_iff` say which of these ways the two orders of
preference choose, the one with the shortest and the one with the longest stretch passed, and
`few_eq_none_iff` and `many_eq_none_iff` that neither order misses a match where there is one.
Words read a given stretch and nothing else (`capture_word_append`).
-/

set_option autoImplicit false
set_option relaxedAutoImplicit false

namespace DeclaredParams

/-- A class that leaves out one character holds of the texts without it. -/
theorem CharClass.holds_except_iff (absent : Char) (passed : Text) :
    (∀ character ∈ passed, (CharClass.except absent).holds character) ↔ absent ∉ passed := by
  constructor
  · intro hholds hmem
    have habsent := hholds absent hmem
    simp [CharClass.holds] at habsent
  · intro habsent character hmem
    have hother : character ≠ absent := by
      rintro rfl
      exact habsent hmem
    simpa [CharClass.holds] using hother

namespace Piece

variable {piece : Piece} {following : Text → Option Text} {text captured : Text}

/-! ### What a stretch adds to the capture -/

theorem foldr_collect_of_not_kept (hkept : piece.kept = false) (passed captured : Text) :
    passed.foldr piece.collect captured = captured := by
  induction passed with
  | nil => rfl
  | cons character rest ih => rw [List.foldr_cons, ih, collect, hkept, if_neg Bool.false_ne_true]

theorem foldr_collect_of_kept (hkept : piece.kept = true) (passed captured : Text) :
    passed.foldr piece.collect captured = passed ++ captured := by
  induction passed with
  | nil => rfl
  | cons character rest ih => rw [List.foldr_cons, ih, collect, if_pos hkept, List.cons_append]

/-! ### One character -/

/-- A piece that is not kept reads one character of its class and leaves the rest to what
follows. -/
theorem one_eq_some_iff (hkept : piece.kept = false) :
    piece.one following text = some captured ↔
      ∃ character rest, text = character :: rest ∧ piece.reads.holds character ∧
        following rest = some captured := by
  have hcollect (character : Char) (found : Text) : piece.collect character found = found := by
    rw [collect, hkept, if_neg Bool.false_ne_true]
  constructor
  · intro hone
    cases text with
    | nil => exact absurd hone (by simp [one])
    | cons character rest =>
      rw [one] at hone
      by_cases hholds : piece.reads.holds character
      · rw [if_pos hholds, Option.map_eq_some_iff] at hone
        obtain ⟨found, hfollowing, hfound⟩ := hone
        rw [hcollect] at hfound
        rw [hfound] at hfollowing
        exact ⟨character, rest, rfl, hholds, hfollowing⟩
      · rw [if_neg hholds] at hone
        exact absurd hone (by simp)
  · rintro ⟨character, rest, rfl, hholds, hfollowing⟩
    rw [one, if_pos hholds, hfollowing, Option.map_some, hcollect]

/-! ### One way to stop -/

/-- A piece that may be repeated stops after `passed`, and the following pieces match `rest` and
capture `found`. -/
structure Stops (piece : Piece) (following : Text → Option Text)
    (text passed rest found : Text) : Prop where
  text_eq : text = passed ++ rest
  holds : ∀ character ∈ passed, piece.reads.holds character
  following_eq : following rest = some found

/-- One more character in front is passed as well. -/
theorem Stops.cons {passed rest found : Text} {character : Char}
    (hstops : Stops piece following text passed rest found)
    (hholds : piece.reads.holds character) :
    Stops piece following (character :: text) (character :: passed) rest found where
  text_eq := by rw [hstops.text_eq, List.cons_append]
  holds := by
    intro other hother
    rcases List.mem_cons.mp hother with rfl | hother
    · exact hholds
    · exact hstops.holds other hother
  following_eq := hstops.following_eq

/-- Behind its first character the piece stops in the same place. -/
theorem Stops.tail {passed rest found : Text} {character : Char}
    (hstops : Stops piece following (character :: text) (character :: passed) rest found) :
    Stops piece following text passed rest found where
  text_eq := by
    have htext := hstops.text_eq
    rw [List.cons_append, List.cons.injEq] at htext
    exact htext.2
  holds := fun other hother ↦ hstops.holds other (List.mem_cons_of_mem character hother)
  following_eq := hstops.following_eq

/-- There is no way to stop on a text with one more character when there is none at its start and,
where the character can be passed, none behind it. -/
theorem not_stops_cons_iff {character : Char} :
    (∀ passed rest found, ¬ Stops piece following (character :: text) passed rest found) ↔
      following (character :: text) = none ∧
        (piece.reads.holds character →
          ∀ passed rest found, ¬ Stops piece following text passed rest found) := by
  constructor
  · intro hnone
    constructor
    · rw [Option.eq_none_iff_forall_ne_some]
      intro found hfollowing
      exact hnone [] (character :: text) found ⟨rfl, by simp, hfollowing⟩
    · intro hholds passed rest found hstops
      exact hnone (character :: passed) rest found (hstops.cons hholds)
  · rintro ⟨hfollowing, hlater⟩ passed rest found hstops
    cases passed with
    | nil =>
      have hfound := hstops.following_eq
      rw [← List.nil_append rest, ← hstops.text_eq, hfollowing] at hfound
      exact absurd hfound (by simp)
    | cons head tail =>
      have htext := hstops.text_eq
      rw [List.cons_append, List.cons.injEq] at htext
      obtain ⟨rfl, -⟩ := htext
      exact hlater (hstops.holds character (by simp)) tail rest found hstops.tail

/-! ### A match is found where there is one -/

/-- The piece that prefers few characters misses no match. -/
theorem few_eq_none_iff :
    piece.few following text = none ↔
      ∀ passed rest found, ¬ Stops piece following text passed rest found := by
  induction text with
  | nil =>
    rw [few, Option.eq_none_iff_forall_ne_some]
    constructor
    · intro hnone passed rest found hstops
      obtain ⟨rfl, rfl⟩ := List.append_eq_nil_iff.mp hstops.text_eq.symm
      exact hnone found hstops.following_eq
    · intro hnone found hfollowing
      exact hnone [] [] found ⟨rfl, by simp, hfollowing⟩
  | cons character rest ih =>
    rw [few, not_stops_cons_iff, Option.or_eq_none_iff, ← ih]
    by_cases hholds : piece.reads.holds character <;> simp [hholds]

/-- The piece that prefers many characters misses no match. -/
theorem many_eq_none_iff :
    piece.many following text = none ↔
      ∀ passed rest found, ¬ Stops piece following text passed rest found := by
  induction text with
  | nil =>
    have hsame : piece.many following [] = piece.few following [] := rfl
    rw [hsame]
    exact few_eq_none_iff
  | cons character rest ih =>
    rw [many, not_stops_cons_iff, Option.or_eq_none_iff, ← ih, and_comm]
    by_cases hholds : piece.reads.holds character <;> simp [hholds]

/-! ### The match that is preferred -/

/-- The piece that prefers few characters stops where it could not have stopped earlier. -/
theorem exists_stops_of_few_eq_some (hfew : piece.few following text = some captured) :
    ∃ passed rest found, Stops piece following text passed rest found ∧
      captured = passed.foldr piece.collect found ∧
      ∀ earlier later, passed = earlier ++ later → later ≠ [] →
        following (later ++ rest) = none := by
  induction text generalizing captured with
  | nil =>
    rw [few] at hfew
    refine ⟨[], [], captured, ⟨rfl, by simp, hfew⟩, rfl, ?_⟩
    intro earlier later hsplit hlater
    exact absurd (List.append_eq_nil_iff.mp hsplit.symm).2 hlater
  | cons character rest ih =>
    rw [few] at hfew
    cases hfollowing : following (character :: rest) with
    | some found =>
      rw [hfollowing, Option.some_or, Option.some.injEq] at hfew
      refine ⟨[], character :: rest, found, ⟨rfl, by simp, hfollowing⟩, hfew.symm, ?_⟩
      intro earlier later hsplit hlater
      exact absurd (List.append_eq_nil_iff.mp hsplit.symm).2 hlater
    | none =>
      rw [hfollowing, Option.none_or] at hfew
      by_cases hholds : piece.reads.holds character
      · rw [if_pos hholds, Option.map_eq_some_iff] at hfew
        obtain ⟨shorter, hshorter, rfl⟩ := hfew
        obtain ⟨passed, left, found, hstops, rfl, hfirst⟩ := ih hshorter
        refine ⟨character :: passed, left, found, hstops.cons hholds, rfl, ?_⟩
        intro earlier later hsplit hlater
        cases earlier with
        | nil =>
          rw [List.nil_append] at hsplit
          rw [← hsplit, List.cons_append, ← hstops.text_eq]
          exact hfollowing
        | cons head tail =>
          rw [List.cons_append, List.cons.injEq] at hsplit
          exact hfirst tail later hsplit.2 hlater
      · rw [if_neg hholds] at hfew
        exact absurd hfew (by simp)

/-- A way to stop that could not have come earlier is what the piece that prefers few takes. -/
theorem few_eq_some_of_stops {passed rest found : Text}
    (hstops : Stops piece following text passed rest found)
    (hfirst : ∀ earlier later, passed = earlier ++ later → later ≠ [] →
      following (later ++ rest) = none) :
    piece.few following text = some (passed.foldr piece.collect found) := by
  induction passed generalizing text with
  | nil =>
    have htext : text = rest := hstops.text_eq
    subst htext
    cases text with
    | nil => exact hstops.following_eq
    | cons character rest =>
      rw [few, hstops.following_eq, Option.some_or]
      rfl
  | cons character passed ih =>
    have htext := hstops.text_eq
    rw [List.cons_append] at htext
    subst htext
    have hfollowing : following (character :: (passed ++ rest)) = none :=
      hfirst [] (character :: passed) rfl (by simp)
    have hshorter := ih hstops.tail fun earlier later hsplit ↦
      hfirst (character :: earlier) later (by rw [hsplit, List.cons_append])
    rw [few, hfollowing, Option.none_or, if_pos (hstops.holds character (by simp)), hshorter]
    rfl

/-- Where no character of a stretch can start what follows it, the piece that prefers few takes the
whole stretch. -/
theorem few_eq_some_of_head {passed rest found : Text}
    (hstops : Stops piece following text passed rest found)
    (hhead : ∀ character others other, character ∈ passed →
      following (character :: others) ≠ some other) :
    piece.few following text = some (passed.foldr piece.collect found) := by
  apply few_eq_some_of_stops hstops
  intro earlier later hsplit hlater
  rw [Option.eq_none_iff_forall_ne_some]
  intro other
  cases later with
  | nil => exact absurd rfl hlater
  | cons character others =>
    have hmem : character ∈ passed := by
      rw [hsplit]
      simp
    exact hhead character (others ++ rest) other hmem

/-- Few characters: the way to stop that comes first. -/
theorem few_eq_some_iff :
    piece.few following text = some captured ↔
      ∃ passed rest found, Stops piece following text passed rest found ∧
        captured = passed.foldr piece.collect found ∧
        ∀ earlier later, passed = earlier ++ later → later ≠ [] →
          following (later ++ rest) = none := by
  constructor
  · exact exists_stops_of_few_eq_some
  · rintro ⟨passed, rest, found, hstops, rfl, hfirst⟩
    exact few_eq_some_of_stops hstops hfirst

/-- Where what follows never starts with a character of the class, there is one way to stop. -/
theorem few_eq_some_iff_of_disjoint
    (hdisjoint : ∀ character rest found, following (character :: rest) = some found →
      piece.reads.holds character = false) :
    piece.few following text = some captured ↔
      ∃ passed rest found, Stops piece following text passed rest found ∧
        captured = passed.foldr piece.collect found := by
  constructor
  · intro hfew
    obtain ⟨passed, rest, found, hstops, hcaptured, -⟩ := few_eq_some_iff.mp hfew
    exact ⟨passed, rest, found, hstops, hcaptured⟩
  · rintro ⟨passed, rest, found, hstops, rfl⟩
    apply few_eq_some_of_head hstops
    intro character others other hmem hother
    have hholds := hstops.holds character hmem
    rw [hdisjoint character others other hother] at hholds
    exact Bool.false_ne_true hholds

/-- The piece that prefers many characters stops where it could not have stopped later. -/
theorem exists_stops_of_many_eq_some (hmany : piece.many following text = some captured) :
    ∃ passed rest found, Stops piece following text passed rest found ∧
      captured = passed.foldr piece.collect found ∧
      ∀ further later, rest = further ++ later → further ≠ [] →
        (∀ character ∈ further, piece.reads.holds character) → following later = none := by
  induction text generalizing captured with
  | nil =>
    rw [many] at hmany
    refine ⟨[], [], captured, ⟨rfl, by simp, hmany⟩, rfl, ?_⟩
    intro further later hsplit hfurther
    exact absurd (List.append_eq_nil_iff.mp hsplit.symm).1 hfurther
  | cons character rest ih =>
    rw [many] at hmany
    cases hlonger : (if piece.reads.holds character then
        (many piece following rest).map (piece.collect character) else none) with
    | some longer =>
      rw [hlonger, Option.some_or, Option.some.injEq] at hmany
      by_cases hholds : piece.reads.holds character
      · rw [if_pos hholds, Option.map_eq_some_iff] at hlonger
        obtain ⟨shorter, hshorter, rfl⟩ := hlonger
        obtain ⟨passed, left, found, hstops, rfl, hlast⟩ := ih hshorter
        exact ⟨character :: passed, left, found, hstops.cons hholds, hmany.symm, hlast⟩
      · rw [if_neg hholds] at hlonger
        exact absurd hlonger (by simp)
    | none =>
      rw [hlonger, Option.none_or] at hmany
      refine ⟨[], character :: rest, captured, ⟨rfl, by simp, hmany⟩, rfl, ?_⟩
      intro further later hsplit hfurther hread
      cases further with
      | nil => exact absurd rfl hfurther
      | cons head tail =>
        rw [List.cons_append, List.cons.injEq] at hsplit
        obtain ⟨rfl, hrest⟩ := hsplit
        rw [if_pos (hread character (by simp)), Option.map_eq_none_iff, many_eq_none_iff] at hlonger
        rw [Option.eq_none_iff_forall_ne_some]
        intro found hfound
        exact hlonger tail later found
          ⟨hrest, fun other hother ↦ hread other (List.mem_cons_of_mem character hother), hfound⟩

/-- A way to stop that could not have come later is what the piece that prefers many takes. -/
theorem many_eq_some_of_stops {passed rest found : Text}
    (hstops : Stops piece following text passed rest found)
    (hlast : ∀ further later, rest = further ++ later → further ≠ [] →
      (∀ character ∈ further, piece.reads.holds character) → following later = none) :
    piece.many following text = some (passed.foldr piece.collect found) := by
  induction passed generalizing text with
  | nil =>
    have htext : text = rest := hstops.text_eq
    subst htext
    cases text with
    | nil => exact hstops.following_eq
    | cons character rest =>
      have hlonger : (if piece.reads.holds character then
          (many piece following rest).map (piece.collect character) else none) = none := by
        by_cases hholds : piece.reads.holds character
        · rw [if_pos hholds, Option.map_eq_none_iff, many_eq_none_iff]
          intro passed later other hother
          have hread := (hother.cons hholds).holds
          have hlater := hlast (character :: passed) later
            (by rw [hother.text_eq, List.cons_append]) (by simp) hread
          rw [hother.following_eq] at hlater
          exact absurd hlater (by simp)
        · rw [if_neg hholds]
      rw [many, hlonger, Option.none_or, hstops.following_eq]
      rfl
  | cons character passed ih =>
    have htext := hstops.text_eq
    rw [List.cons_append] at htext
    subst htext
    rw [many, if_pos (hstops.holds character (by simp)), ih hstops.tail, Option.map_some,
      Option.some_or]
    rfl

/-- Many characters: the way to stop that comes last. -/
theorem many_eq_some_iff :
    piece.many following text = some captured ↔
      ∃ passed rest found, Stops piece following text passed rest found ∧
        captured = passed.foldr piece.collect found ∧
        ∀ further later, rest = further ++ later → further ≠ [] →
          (∀ character ∈ further, piece.reads.holds character) → following later = none := by
  constructor
  · exact exists_stops_of_many_eq_some
  · rintro ⟨passed, rest, found, hstops, rfl, hlast⟩
    exact many_eq_some_of_stops hstops hlast

end Piece

namespace Pattern

variable {pieces : Pattern} {text captured : Text}

/-! ### Words and optional characters -/

/-- A word reads its letters, and the following pieces match what is left. -/
theorem capture_word_append (letters : String) :
    capture (word letters ++ pieces) text = some captured ↔
      ∃ rest, text = letters.toList ++ rest ∧ capture pieces rest = some captured := by
  rw [word]
  induction letters.toList generalizing text with
  | nil => simp
  | cons letter others ih =>
    have hstep : capture ((letter :: others).map
        (fun letter ↦ ⟨.only letter, .once, false⟩) ++ pieces) text = some captured ↔ _ :=
      Piece.one_eq_some_iff rfl
    rw [hstep]
    constructor
    · rintro ⟨character, left, rfl, hletter, hothers⟩
      obtain ⟨rest, rfl, hrest⟩ := ih.mp hothers
      have hsame : character = letter := by simpa [CharClass.holds] using hletter
      exact ⟨rest, by rw [hsame, List.cons_append], hrest⟩
    · rintro ⟨rest, rfl, hrest⟩
      exact ⟨letter, others ++ rest, rfl, by simp [CharClass.holds], ih.mpr ⟨rest, rfl, hrest⟩⟩

/-- An optional character is read when the following pieces match behind it, and left otherwise. -/
theorem capture_optional_iff (reads : CharClass) :
    capture (⟨reads, .optional, false⟩ :: pieces) text = some captured ↔
      (∃ character rest, text = character :: rest ∧ reads.holds character ∧
        capture pieces rest = some captured) ∨
      ((∀ character rest, text = character :: rest → reads.holds character →
        capture pieces rest = none) ∧ capture pieces text = some captured) := by
  have hcapture : capture (⟨reads, .optional, false⟩ :: pieces) text =
      (Piece.one ⟨reads, .optional, false⟩ (capture pieces) text).or (capture pieces text) := rfl
  have hnone : Piece.one ⟨reads, .optional, false⟩ (capture pieces) text = none ↔
      ∀ character rest, text = character :: rest → reads.holds character →
        capture pieces rest = none := by
    rw [Option.eq_none_iff_forall_ne_some]
    constructor
    · intro hnever character rest htext hholds
      rw [Option.eq_none_iff_forall_ne_some]
      intro found hfound
      exact hnever found ((Piece.one_eq_some_iff rfl).mpr ⟨character, rest, htext, hholds, hfound⟩)
    · intro hnever found hone
      obtain ⟨character, rest, htext, hholds, hfound⟩ := (Piece.one_eq_some_iff rfl).mp hone
      rw [hnever character rest htext hholds] at hfound
      exact absurd hfound (by simp)
  rw [hcapture, Option.or_eq_some_iff, Piece.one_eq_some_iff rfl, hnone]

end Pattern

end DeclaredParams
