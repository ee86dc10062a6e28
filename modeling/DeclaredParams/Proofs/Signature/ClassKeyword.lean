import DeclaredParams.Proofs.Signature.Selection

/-!
# Blanks behind the keyword of a class

A class needs a blank behind its keyword, and the line breaks of a source are removed before the
keyword is looked for. So a line break alone does not part the keyword from the name of the class:
`inspect_class_blanks` says that any blanks behind the keyword are as good as one space if one of
them stays on the line, or if a blank follows them there, and that otherwise nothing is recognised.
Once the keyword is parted from what follows, further blanks make no difference, because they start
no constructor (`lastList_append_left`).
-/

set_option autoImplicit false
set_option relaxedAutoImplicit false

namespace DeclaredParams

open Text

variable {lead text : Text}

/-! ### Blanks in front of a constructor -/

namespace Shape

/-- A blank on the line starts no constructor. -/
theorem lastList_cons_of_isBlank {blank : Char} (hblank : isBlank blank) (honLine : blank ≠ '\n')
    (text : Text) : lastList (blank :: text) = lastList text := by
  have hread : (CharClass.except '\n').holds blank := by simpa [CharClass.holds] using honLine
  have hnone : Pattern.capture (Pattern.word "constructor" ++ (blanks ++ parenthesised))
      (blank :: text) = none := by
    rw [Option.eq_none_iff_forall_ne_some]
    intro list hcapture
    obtain ⟨gap, rest, hsplit, -⟩ := capture_constructor.mp hcapture
    have hletter : blank = 'c' := (List.cons.inj hsplit).1
    rw [hletter] at hblank
    exact absurd hblank (by decide)
  have hcollect : (Piece.collect ⟨.except '\n', .most, false⟩ blank : Text → Text) = id := rfl
  rw [lastList, Piece.many, if_pos hread, hnone, Option.or_none, hcollect, Option.map_id_apply]

/-- Blanks in front of a line leave its last constructor where it is. -/
theorem lastList_append_left (hlead : OnlyBlanks lead) (honLine : '\n' ∉ lead) (text : Text) :
    lastList (lead ++ text) = lastList text := by
  induction lead with
  | nil => rfl
  | cons blank others ih =>
    rw [List.mem_cons, not_or] at honLine
    rw [List.cons_append, lastList_cons_of_isBlank (hlead blank (by simp)) (Ne.symm honLine.1)]
    exact ih (fun character hmem ↦ hlead character (List.mem_cons_of_mem blank hmem)) honLine.2

/-- Behind the keyword a line is read as a class when it starts with a blank. -/
theorem capture_class_keyword (honLine : OneLine text) :
    capture .classConstructor ("class".toList ++ text) =
      if text.head?.any isBlank then (lastList text).map trim else none := by
  cases text with
  | nil => decide +kernel
  | cons blank line =>
    rw [List.head?_cons, Option.any_some, capture_eq]
    by_cases hblank : isBlank blank
    · have hbreak : blank ≠ '\n' := fun hsame ↦ honLine.not_mem (by simp [hsame])
      rw [if_pos hblank, lastList_cons_of_isBlank hblank hbreak]
      congr 1
      apply Option.ext
      intro list
      rw [pattern, capture_classPattern]
      constructor
      · rintro ⟨blank', line', hsplit, -, hlist⟩
        rw [List.append_cancel_left_eq, List.cons.injEq] at hsplit
        rwa [hsplit.2]
      · intro hlist
        exact ⟨blank, line, rfl, hblank, hlist⟩
    · rw [if_neg hblank, Option.map_eq_none_iff, Option.eq_none_iff_forall_ne_some]
      intro list hlist
      obtain ⟨blank', line', hsplit, hblank', -⟩ := capture_classPattern.mp hlist
      rw [List.append_cancel_left_eq, List.cons.injEq] at hsplit
      rw [← hsplit.1] at hblank'
      exact hblank hblank'

end Shape

/-! ### Blanks behind the keyword -/

/-- The signature of a class whose list was found, and the empty one where none was. -/
def classSignature (list : Option Text) : Signature :=
  .ofRecognition? (list.map fun raw ↦ ⟨.classConstructor, trim raw⟩)

/-- The signature of a source that starts with the keyword of a class. -/
theorem inspect_class_keyword (text : Text) :
    inspect (.only .classConstructor) ("class".toList ++ text) =
      if (joinLines text).head?.any isBlank then classSignature (Shape.lastList (joinLines text))
      else .empty := by
  have hkeyword : joinLines "class".toList = "class".toList := by decide
  have hstart : trimStart ("class".toList ++ joinLines text) = "class".toList ++ joinLines text :=
    trimStart_cons (by decide)
  rw [inspect, recognise, joinLines_append, hkeyword, hstart, recogniseLine_only,
    Shape.capture_class_keyword (oneLine_joinLines text)]
  by_cases hblank : (joinLines text).head?.any isBlank
  · rw [if_pos hblank, if_pos hblank, Option.map_map]
    rfl
  · rw [if_neg hblank, if_neg hblank]
    rfl

/-- With one space behind the keyword the list of the last constructor on the line is found. -/
theorem inspect_class_space (rest : Text) :
    inspect (.only .classConstructor) ("class".toList ++ ' ' :: rest) =
      classSignature (Shape.lastList (joinLines rest)) := by
  have hjoined : joinLines (' ' :: rest) = ' ' :: joinLines rest := rfl
  have hspace : (' ' :: joinLines rest).head?.any isBlank := show isBlank ' ' by decide
  rw [inspect_class_keyword, hjoined, if_pos hspace,
    Shape.lastList_cons_of_isBlank (by decide) (by decide)]

/-- When a blank is left on the line behind the keyword: one of those that stand there, or one that
follows the line breaks. -/
theorem head?_joinLines_append {blanks : Text} (hblanks : OnlyBlanks blanks) (rest : Text) :
    (joinLines (blanks ++ rest)).head?.any isBlank ↔
      (∃ character ∈ blanks, isLineBreak character = false) ∨
        ∃ character ∈ (joinLines rest).head?, isBlank character := by
  rw [joinLines_append, Option.any_eq_true]
  cases hleft : joinLines blanks with
  | nil =>
    have hbreaks : ¬ ∃ character ∈ blanks, isLineBreak character = false := by
      rintro ⟨character, hmem, hstays⟩
      have hkept : character ∈ joinLines blanks := List.mem_filter.mpr ⟨hmem, by simp [hstays]⟩
      rw [hleft] at hkept
      exact absurd hkept (by simp)
    rw [List.nil_append, or_iff_right hbreaks]
    rfl
  | cons first others =>
    have hkept : first ∈ joinLines blanks := by simp [hleft]
    have hstays := oneLine_joinLines blanks first hkept
    have hmem : first ∈ blanks := (List.mem_filter.mp hkept).1
    constructor
    · intro _
      exact Or.inl ⟨first, hmem, hstays⟩
    · intro _
      exact ⟨first, rfl, hblanks first hmem⟩

/-- Blanks behind the keyword of a class are read as one space or keep it from being recognised, and
they are read as one space exactly when a blank is left on the line behind the keyword or there is
nothing to recognise. -/
theorem inspect_class_blanks {blanks : Text} (hblanks : OnlyBlanks blanks) (rest : Text) :
    (inspect (.only .classConstructor) ("class".toList ++ (blanks ++ rest)) =
        inspect (.only .classConstructor) ("class".toList ++ ' ' :: rest) ∨
      inspect (.only .classConstructor) ("class".toList ++ (blanks ++ rest)) = .empty) ∧
    (inspect (.only .classConstructor) ("class".toList ++ (blanks ++ rest)) =
        inspect (.only .classConstructor) ("class".toList ++ ' ' :: rest) ↔
      (∃ character ∈ blanks, isLineBreak character = false) ∨
        (∃ character ∈ (joinLines rest).head?, isBlank character) ∨
          inspect (.only .classConstructor) ("class".toList ++ ' ' :: rest) = .empty) := by
  have hlead : OnlyBlanks (joinLines blanks) :=
    fun character hmem ↦ hblanks character (List.mem_filter.mp hmem).1
  have hlist : Shape.lastList (joinLines (blanks ++ rest)) = Shape.lastList (joinLines rest) := by
    rw [joinLines_append, Shape.lastList_append_left hlead (oneLine_joinLines blanks).not_mem]
  rw [inspect_class_keyword, inspect_class_space, hlist, ← or_assoc,
    ← head?_joinLines_append hblanks rest]
  by_cases hblank : (joinLines (blanks ++ rest)).head?.any isBlank
  · rw [if_pos hblank]
    exact ⟨Or.inl rfl, fun _ ↦ Or.inl hblank, fun _ ↦ rfl⟩
  · rw [if_neg hblank]
    refine ⟨Or.inr rfl, fun hsame ↦ Or.inr hsame.symm, ?_⟩
    rintro (hparted | hempty)
    · exact absurd hparted hblank
    · exact hempty.symm

/-- A line feed behind the keyword does not part it from the name of the class. -/
theorem inspect_class_blanks_of_line_feed :
    inspect (.only .classConstructor) "class A { constructor(a) {} }".toList =
        ⟨some .classConstructor, [.plain ['a']]⟩ ∧
      inspect (.only .classConstructor) "class\nA { constructor(a) {} }".toList = .empty := by
  have hspace : inspect (.only .classConstructor) "class A { constructor(a) {} }".toList =
      ⟨some .classConstructor, [.plain ['a']]⟩ := by
    have hlist : Shape.lastList (joinLines "A { constructor(a) {} }".toList) = some ['a'] := by
      decide +kernel
    have hread : parseParameterList ['a'] = [.plain ['a']] := by
      rw [parseParameterList_of_no_comment (not_pair_isInfix_of_not_mem (by decide))]
      decide
    have hclass := inspect_class_space "A { constructor(a) {} }".toList
    rw [hlist] at hclass
    rw [← hread]
    exact hclass
  refine ⟨hspace, ?_⟩
  have hblanks := inspect_class_blanks (show OnlyBlanks ['\n'] by decide)
    "A { constructor(a) {} }".toList
  rcases hblanks.1 with hsame | hempty
  · rcases hblanks.2.mp hsame with ⟨character, hmem, hstays⟩ | ⟨character, hhead, hblank⟩ | hnothing
    · rw [List.mem_singleton] at hmem
      rw [hmem] at hstays
      exact absurd hstays (by decide)
    · have hname : (joinLines "A { constructor(a) {} }".toList).head? = some 'A' := by
        decide +kernel
      rw [hname, Option.mem_some_iff] at hhead
      rw [← hhead] at hblank
      exact absurd hblank (by decide)
    · have hrecognised := hspace.symm.trans hnothing
      exact absurd hrecognised (by decide)
  · exact hempty

end DeclaredParams
