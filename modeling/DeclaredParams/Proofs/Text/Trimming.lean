import DeclaredParams.Text.Blank
import DeclaredParams.Text.LineBreak

/-!
# Blanks at the ends of a text

What trimming removes is made of blanks alone (`exists_trimStart`, `exists_trimEnd`, `exists_trim`),
what it leaves neither starts nor ends with one (`startsClean_trim`, `endsClean_trim`), which is all
that it takes to be left as it is (`trim_of_clean`), and blanks put in front of a text or behind it
make no difference (`trim_append_left`, `trim_append_right`). `trimEnd_take` says by positions what
is removed from the end.
-/

set_option autoImplicit false
set_option relaxedAutoImplicit false

namespace DeclaredParams.Text

variable {text lead trail : Text} {character : Char}

/-- The text is made of blanks alone. -/
def OnlyBlanks (text : Text) : Prop :=
  ∀ character ∈ text, isBlank character

instance (text : Text) : Decidable (OnlyBlanks text) :=
  List.decidableBAll _ text

/-- The text does not start with a blank. -/
def StartsClean (text : Text) : Prop :=
  ∀ character ∈ text.head?, isBlank character = false

instance (text : Text) : Decidable (StartsClean text) :=
  Option.decidableForallMem text.head?

/-- The text does not end with a blank. -/
def EndsClean (text : Text) : Prop :=
  ∀ character ∈ text.getLast?, isBlank character = false

instance (text : Text) : Decidable (EndsClean text) :=
  Option.decidableForallMem text.getLast?

/-- A character that is no blank does not occur among blanks. -/
theorem OnlyBlanks.not_mem (hblanks : OnlyBlanks text) (hcharacter : isBlank character = false) :
    character ∉ text := by
  intro hmem
  have hblank := hblanks character hmem
  rw [hcharacter] at hblank
  exact Bool.false_ne_true hblank

/-! ### The start of a text -/

theorem trimStart_append (hlead : OnlyBlanks lead) : trimStart (lead ++ text) = trimStart text :=
  List.dropWhile_append_of_pos hlead

theorem trimStart_cons (hcharacter : isBlank character = false) :
    trimStart (character :: text) = character :: text :=
  List.dropWhile_cons_of_neg (by simp [hcharacter])

theorem trimStart_eq_nil (htext : OnlyBlanks text) : trimStart text = [] := by
  rw [← List.append_nil text, trimStart_append htext]
  rfl

/-- Blanks alone are removed from the start. -/
theorem exists_trimStart (text : Text) :
    ∃ lead, OnlyBlanks lead ∧ text = lead ++ trimStart text := by
  refine ⟨text.takeWhile isBlank, ?_, List.takeWhile_append_dropWhile.symm⟩
  intro character hmem
  exact List.all_eq_true.mp List.all_takeWhile character hmem

/-- What is left does not start with a blank. -/
theorem isBlank_of_trimStart_eq (htext : trimStart text = character :: trail) :
    isBlank character = false := by
  have hhead := List.head?_dropWhile_not isBlank text
  rw [trimStart] at htext
  rw [htext] at hhead
  simpa using hhead

/-- A character that is no blank stays, with all that stands behind it. -/
theorem trimStart_append_cons (hcharacter : isBlank character = false) (front rest : Text) :
    trimStart (front ++ character :: rest) = trimStart front ++ character :: rest := by
  obtain ⟨lead, hlead, hfront⟩ := exists_trimStart front
  cases hstart : trimStart front with
  | nil =>
    rw [hstart, List.append_nil] at hfront
    rw [hfront, trimStart_append hlead, trimStart_cons hcharacter]
    rfl
  | cons first others =>
    rw [hfront, hstart, List.append_assoc, trimStart_append hlead, List.cons_append,
      trimStart_cons (isBlank_of_trimStart_eq hstart)]

/-! ### The end of a text -/

theorem trimEnd_append (htrail : OnlyBlanks trail) : trimEnd (text ++ trail) = trimEnd text := by
  rw [trimEnd, List.reverse_append]
  have hreverse : ∀ character ∈ trail.reverse, isBlank character := by
    intro character hmem
    exact htrail character (List.mem_reverse.mp hmem)
  rw [List.dropWhile_append_of_pos hreverse]
  rfl

theorem trimEnd_concat (hcharacter : isBlank character = false) :
    trimEnd (text ++ [character]) = text ++ [character] := by
  simp [trimEnd, hcharacter]

theorem trimEnd_eq_nil (htext : OnlyBlanks text) : trimEnd text = [] := by
  rw [← List.nil_append text, trimEnd_append htext]
  rfl

/-- A text whose last character is no blank has none at its end. -/
theorem EndsClean.trimEnd (hlast : EndsClean text) : trimEnd text = text := by
  rcases List.eq_nil_or_concat text with rfl | ⟨front, last, rfl⟩
  · rfl
  · rw [List.concat_eq_append] at hlast ⊢
    exact trimEnd_concat (hlast last (by simp))

/-- A text without blanks has none at its end. -/
theorem trimEnd_eq_self (htext : ∀ character ∈ text, isBlank character = false) :
    trimEnd text = text :=
  EndsClean.trimEnd fun character hlast ↦ htext character (List.mem_of_getLast? hlast)

/-- Blanks alone are removed from the end. -/
theorem exists_trimEnd (text : Text) :
    ∃ trail, OnlyBlanks trail ∧ text = trimEnd text ++ trail := by
  obtain ⟨lead, hlead, htext⟩ := exists_trimStart text.reverse
  refine ⟨lead.reverse, ?_, ?_⟩
  · intro character hmem
    exact hlead character (List.mem_reverse.mp hmem)
  · have hreverse := congrArg List.reverse htext
    rw [List.reverse_reverse, List.reverse_append] at hreverse
    exact hreverse

/-- What is left does not end with a blank. -/
theorem isBlank_of_trimEnd_eq (htext : trimEnd text = lead ++ [character]) :
    isBlank character = false := by
  have hreverse : trimStart text.reverse = character :: lead.reverse := by
    rw [trimEnd] at htext
    simpa [trimStart] using congrArg List.reverse htext
  exact isBlank_of_trimStart_eq hreverse

/-- A character that is no blank stays, with all that stands before it. -/
theorem trimEnd_append_cons (hcharacter : isBlank character = false) (front rest : Text) :
    trimEnd (front ++ character :: rest) = front ++ character :: trimEnd rest := by
  obtain ⟨trail, htrail, hrest⟩ := exists_trimEnd rest
  rcases List.eq_nil_or_concat (trimEnd rest) with hnil | ⟨middle, last, hlast⟩
  · rw [hnil, List.nil_append] at hrest
    rw [hnil, hrest, ← List.singleton_append, ← List.append_assoc, trimEnd_append htrail,
      trimEnd_concat hcharacter]
  · rw [List.concat_eq_append] at hlast
    have hend : trimEnd (front ++ character :: middle ++ [last]) =
        front ++ character :: middle ++ [last] := trimEnd_concat (isBlank_of_trimEnd_eq hlast)
    rw [hlast] at hrest ⊢
    rw [hrest, ← List.cons_append, ← List.append_assoc, trimEnd_append htrail,
      ← List.cons_append, ← List.append_assoc, hend]

theorem trimEnd_cons (hcharacter : isBlank character = false) (text : Text) :
    trimEnd (character :: text) = character :: trimEnd text :=
  trimEnd_append_cons hcharacter [] text

/-- The blanks right before the position `stop` of a text, as many as stand there, begin at
`start`. -/
structure BlanksBefore (text : Text) (start stop : Nat) : Prop where
  start_le : start ≤ stop
  onlyBlanks : OnlyBlanks (text.extract start stop)
  not_isBlank : ∀ character ∈ (text.take start).getLast?, isBlank character = false

/-- They are what trimming removes from the end of the text before the position. -/
theorem trimEnd_take {start stop : Nat} (hblanks : BlanksBefore text start stop) :
    trimEnd (text.take stop) = text.take start := by
  have hsplit : text.take stop = text.take start ++ text.extract start stop := by
    rw [List.extract_eq_take_drop, ← List.take_add, Nat.add_sub_cancel' hblanks.start_le]
  rw [hsplit, trimEnd_append hblanks.onlyBlanks, EndsClean.trimEnd hblanks.not_isBlank]

/-- Where trimming stops the blanks before the position begin. -/
theorem blanksBefore_trimEnd {stop : Nat} (hstop : stop ≤ text.length) :
    BlanksBefore text (trimEnd (text.take stop)).length stop := by
  obtain ⟨trail, htrail, hsplit⟩ := exists_trimEnd (text.take stop)
  have hlength := congrArg List.length hsplit
  rw [List.length_take, Nat.min_eq_left hstop, List.length_append] at hlength
  have hstart : text.take (trimEnd (text.take stop)).length = trimEnd (text.take stop) := by
    have hprefix : trimEnd (text.take stop) <+: text :=
      List.IsPrefix.trans ⟨trail, hsplit.symm⟩ (List.take_prefix stop text)
    exact (List.prefix_iff_eq_take.mp hprefix).symm
  refine ⟨by omega, ?_, ?_⟩
  · have hextract : text.extract (trimEnd (text.take stop)).length stop = trail := by
      rw [List.extract_eq_take_drop, ← List.drop_take]
      exact (congrArg (List.drop _) hsplit).trans List.drop_left
    rwa [hextract]
  · intro character hlast
    rw [hstart] at hlast
    obtain ⟨lead, hlead⟩ := List.getLast?_eq_some_iff.mp hlast
    exact isBlank_of_trimEnd_eq hlead

/-! ### Both ends -/

theorem trim_append_left (hlead : OnlyBlanks lead) : trim (lead ++ text) = trim text := by
  rw [trim, trimStart_append hlead, trim]

theorem trim_append_right (htrail : OnlyBlanks trail) : trim (text ++ trail) = trim text := by
  obtain ⟨lead, hlead, htext⟩ := exists_trimStart text
  cases hstart : trimStart text with
  | nil =>
    rw [hstart, List.append_nil] at htext
    subst htext
    rw [trim_append_left hlead, trim, trim, trimStart_eq_nil hlead, trimStart_eq_nil htrail]
  | cons character rest =>
    have hcharacter : isBlank character = false := isBlank_of_trimStart_eq hstart
    have hlonger : trimStart (text ++ trail) = character :: rest ++ trail := by
      rw [htext, hstart, List.append_assoc, trimStart_append hlead, List.cons_append,
        trimStart_cons hcharacter]
    rw [trim, trim, hlonger, hstart, trimEnd_append htrail]

/-- Trimming removes blanks alone. -/
theorem exists_trim (text : Text) :
    ∃ lead trail, OnlyBlanks lead ∧ OnlyBlanks trail ∧ text = lead ++ trim text ++ trail := by
  obtain ⟨lead, hlead, hstart⟩ := exists_trimStart text
  obtain ⟨trail, htrail, hend⟩ := exists_trimEnd (trimStart text)
  refine ⟨lead, trail, hlead, htrail, ?_⟩
  rw [trim, List.append_assoc, ← hend]
  exact hstart

/-- Trimming keeps a stretch of the text. -/
theorem trim_isInfix (text : Text) : trim text <:+: text := by
  obtain ⟨lead, trail, -, -, htext⟩ := exists_trim text
  exact ⟨lead, trail, htext.symm⟩

/-- Trimming keeps nothing that was not there. -/
theorem trim_subset (text : Text) : trim text ⊆ text :=
  (trim_isInfix text).subset

/-- Of blanks alone trimming leaves nothing, and of any other text something. -/
theorem trim_eq_nil_iff : trim text = [] ↔ OnlyBlanks text := by
  constructor
  · intro htrim
    obtain ⟨lead, trail, hlead, htrail, htext⟩ := exists_trim text
    rw [htext, htrim, List.append_nil]
    exact List.forall_mem_append.mpr ⟨hlead, htrail⟩
  · intro htext
    rw [trim, trimStart_eq_nil htext]
    rfl

theorem StartsClean.of_append {front behind : Text} (hstart : StartsClean (front ++ behind)) :
    StartsClean front := by
  intro character hhead
  obtain ⟨rest, rfl⟩ := List.head?_eq_some_iff.mp hhead
  exact hstart character rfl

theorem EndsClean.of_append {front behind : Text} (hend : EndsClean (front ++ behind)) :
    EndsClean behind := by
  intro character hlast
  apply hend character
  rw [List.getLast?_append, hlast]
  rfl

theorem EndsClean.append {front behind : Text} (hfront : EndsClean front)
    (hbehind : EndsClean behind) : EndsClean (front ++ behind) := by
  intro character hlast
  rw [List.getLast?_append, Option.mem_def, Option.or_eq_some_iff] at hlast
  rcases hlast with hlast | ⟨-, hlast⟩
  · exact hbehind character hlast
  · exact hfront character hlast

/-- What is left of a text neither starts nor ends with a blank. -/
theorem startsClean_trim (text : Text) : StartsClean (trim text) := by
  obtain ⟨trail, -, hsplit⟩ := exists_trimEnd (trimStart text)
  have hstart : StartsClean (trimEnd (trimStart text) ++ trail) := by
    rw [← hsplit]
    intro character hhead
    obtain ⟨rest, hrest⟩ := List.head?_eq_some_iff.mp hhead
    exact isBlank_of_trimStart_eq hrest
  exact hstart.of_append

theorem endsClean_trim (text : Text) : EndsClean (trim text) := by
  intro character hlast
  obtain ⟨front, hfront⟩ := List.getLast?_eq_some_iff.mp hlast
  exact isBlank_of_trimEnd_eq hfront

/-- A text that neither starts nor ends with a blank is left as it is. -/
theorem trim_of_clean (hstart : StartsClean text) (hend : EndsClean text) : trim text = text := by
  have hkept : trimStart text = text := by
    cases text with
    | nil => rfl
    | cons first others => exact trimStart_cons (hstart first rfl)
  rw [trim, hkept, hend.trimEnd]

/-- A text without blanks is left as it is. -/
theorem trim_eq_self (htext : ∀ character ∈ text, isBlank character = false) :
    trim text = text :=
  trim_of_clean (fun character hhead ↦ htext character (List.mem_of_head? hhead))
    fun character hlast ↦ htext character (List.mem_of_getLast? hlast)

/-- Around a character that is no blank only the outer ends are trimmed. -/
theorem exists_trim_append_cons (hcharacter : isBlank character = false) (front rest : Text) :
    ∃ gap, OnlyBlanks gap ∧
      trim (front ++ character :: rest) = trim front ++ (gap ++ character :: trimEnd rest) := by
  obtain ⟨gap, hgap, hfront⟩ := exists_trimEnd (trimStart front)
  refine ⟨gap, hgap, ?_⟩
  rw [trim, trimStart_append_cons hcharacter, trimEnd_append_cons hcharacter, trim,
    ← List.append_assoc, ← hfront]

/-! ### Line breaks -/

/-- The text holds no line break. -/
def OneLine (text : Text) : Prop :=
  ∀ character ∈ text, isLineBreak character = false

instance (text : Text) : Decidable (OneLine text) :=
  List.decidableBAll _ text

theorem oneLine_append {front behind : Text} :
    OneLine (front ++ behind) ↔ OneLine front ∧ OneLine behind :=
  List.forall_mem_append

theorem joinLines_append (front behind : Text) :
    joinLines (front ++ behind) = joinLines front ++ joinLines behind :=
  List.filter_append front behind

/-- A text without line breaks is one line already. -/
theorem joinLines_eq_self (htext : OneLine text) : joinLines text = text := by
  rw [joinLines, List.filter_eq_self]
  intro character hmem
  rw [htext character hmem, Bool.not_false]

/-- No line break is left on the line. -/
theorem oneLine_joinLines (text : Text) : OneLine (joinLines text) := by
  intro character hmem
  simpa using (List.mem_filter.mp hmem).2

/-- A line holds no line feed. -/
theorem OneLine.not_mem (htext : OneLine text) : '\n' ∉ text := by
  intro hmem
  exact absurd (htext '\n' hmem) (by decide)

end DeclaredParams.Text
