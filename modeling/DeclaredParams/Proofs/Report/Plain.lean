import DeclaredParams.Proofs.Parameter.Reading
import DeclaredParams.Proofs.Signature.Selection
import DeclaredParams.Report.Plain

/-!
# Plain reports read back

A line of a plain report is read by its ends alone (`readLine`): three dots in front make a rest
parameter, the default marker at the end makes a default value, and what remains is the name. That
gives back the parameter unless its name imitates a marker or a line end. `Legible` lists what the
name must not do, and the lists of classes and regular functions declare legible parameters only
(`legible_of_mem_inspect`): a name out of parentheses holds no closing one, and so does not end like
the default marker. Hence their reports can be read back (`plain_readable`). An arrow function can
have a closing parenthesis in a name.
-/

set_option autoImplicit false
set_option relaxedAutoImplicit false

namespace DeclaredParams

open Text Parameter

/-! ### One line -/

namespace Report

variable {parameter : Parameter}

/-- The line of a parameter without its line feed. -/
def shownParameter (parameter : Parameter) : Text :=
  (if parameter.isRest then restMarker else []) ++ parameter.name ++
    (if parameter.hasDefault then defaultMarker else [])

/-- The parameter that a line shows. -/
def readLine (line : Text) : Parameter :=
  let unmarked := if restMarker.isPrefixOf line then line.drop restMarker.length else line
  { name :=
      if defaultMarker.isSuffixOf line then unmarked.take (unmarked.length - defaultMarker.length)
      else unmarked
    isRest := restMarker.isPrefixOf line
    hasDefault := defaultMarker.isSuffixOf line }

/-- The line of a parameter shows that parameter and no other. -/
structure Legible (parameter : Parameter) : Prop where
  /-- The name does not end like the marker of a default value. -/
  closing : ')' ∉ parameter.name
  /-- The name stays on its line. -/
  onLine : '\n' ∉ parameter.name
  /-- There is no marker at both ends. -/
  oneMarker : parameter.isRest = true → parameter.hasDefault = false
  /-- The name does not start like the marker of a rest parameter. -/
  unmarked : parameter.isRest = false → ¬ restMarker <+: parameter.name

theorem head?_defaultMarker : defaultMarker.head? = some ' ' := by decide +kernel

theorem closing_mem_defaultMarker : ')' ∈ defaultMarker := by decide +kernel

theorem lineFeed_not_mem_defaultMarker : '\n' ∉ defaultMarker := by decide +kernel

/-- Three dots stand in front of rest parameters alone. -/
theorem restMarker_isPrefix_iff (hlegible : Legible parameter) :
    restMarker <+: shownParameter parameter ↔ parameter.isRest = true := by
  rw [shownParameter, List.append_assoc]
  cases hrest : parameter.isRest with
  | true =>
    rw [if_pos rfl]
    exact iff_of_true (List.prefix_append _ _) rfl
  | false =>
    rw [if_neg Bool.false_ne_true, List.nil_append]
    refine iff_of_false (fun hmarker ↦ hlegible.unmarked hrest ?_) Bool.false_ne_true
    apply isPrefix_of_isPrefix_append _ hmarker
    cases parameter.hasDefault with
    | true =>
      rw [if_pos rfl, head?_defaultMarker]
      simp [restMarker]
    | false => simp

/-- The marker of a default value stands behind the parameters that have one. -/
theorem defaultMarker_isSuffix_iff (hlegible : Legible parameter) :
    defaultMarker <:+ shownParameter parameter ↔ parameter.hasDefault = true := by
  rw [shownParameter]
  cases parameter.hasDefault with
  | true =>
    rw [if_pos rfl]
    exact iff_of_true (List.suffix_append _ _) rfl
  | false =>
    rw [if_neg Bool.false_ne_true, List.append_nil]
    refine iff_of_false (fun hmarker ↦ ?_) Bool.false_ne_true
    rcases List.mem_append.mp (hmarker.subset closing_mem_defaultMarker) with hmem | hmem
    · cases parameter.isRest <;> simp [restMarker] at hmem
    · exact hlegible.closing hmem

/-- A legible parameter is read back from its line. -/
theorem readLine_shownParameter (hlegible : Legible parameter) :
    readLine (shownParameter parameter) = parameter := by
  have hrest : restMarker.isPrefixOf (shownParameter parameter) = parameter.isRest := by
    rw [Bool.eq_iff_iff, List.isPrefixOf_iff_prefix]
    exact restMarker_isPrefix_iff hlegible
  have hdefault : defaultMarker.isSuffixOf (shownParameter parameter) = parameter.hasDefault := by
    rw [Bool.eq_iff_iff, List.isSuffixOf_iff_suffix]
    exact defaultMarker_isSuffix_iff hlegible
  rw [readLine, hrest, hdefault, shownParameter]
  obtain ⟨name, isRest, hasDefault⟩ := parameter
  cases isRest with
  | true =>
    cases hlegible.oneMarker rfl
    simp
  | false => cases hasDefault <;> simp

/-! ### All lines -/

/-- The lines of a plain report, and nothing behind the last line feed. -/
theorem splitOn_plain {parameters : List Parameter}
    (hlegible : ∀ parameter ∈ parameters, Legible parameter) :
    (plain parameters).splitOn '\n' = parameters.map shownParameter ++ [[]] := by
  induction parameters with
  | nil => rfl
  | cons parameter others ih =>
    rw [List.forall_mem_cons] at hlegible
    have hline : '\n' ∉ shownParameter parameter := by
      have honLine := hlegible.1.onLine
      cases hrest : parameter.isRest <;> cases hdefault : parameter.hasDefault <;>
        simp [shownParameter, hrest, hdefault, honLine, restMarker, lineFeed_not_mem_defaultMarker]
    have hplain : plain (parameter :: others) =
        shownParameter parameter ++ '\n' :: plain others := by
      simp [plain, plainLine, shownParameter]
    rw [hplain, List.splitOn_append_cons_self, ih hlegible.2, List.splitOn_eq_singleton hline]
    rfl

/-- The parameters are read back line by line. -/
theorem exists_lines_plain {parameters : List Parameter}
    (hlegible : ∀ parameter ∈ parameters, Legible parameter) :
    ∃ lines, (plain parameters).splitOn '\n' = lines ++ [[]] ∧
      lines.map readLine = parameters := by
  refine ⟨parameters.map shownParameter, splitOn_plain hlegible, ?_⟩
  rw [List.map_map]
  have hread : ∀ parameter ∈ parameters, (readLine ∘ shownParameter) parameter = id parameter :=
    fun parameter hmem ↦ readLine_shownParameter (hlegible parameter hmem)
  rw [List.map_congr_left hread, List.map_id]

end Report

/-! ### Reports of callables -/

variable {shapes : ShapeSet} {source : Text} {shape : Shape}

/-- The parameters of a signature are those of the list that its shape captures. -/
theorem exists_capture_of_shape (hshape : (inspect shapes source).shape = some shape) :
    ∃ raw, shape.capture source.joinLines.trimStart = some raw ∧
      (inspect shapes source).parameters = parseParameterList raw := by
  cases hfound : recognise shapes source with
  | none =>
    rw [inspect, hfound] at hshape
    cases hshape
  | some found =>
    rw [inspect_of_recognise hfound] at hshape ⊢
    cases hshape
    exact ⟨found.raw, (recogniseLine_eq_some_iff.mp hfound).2.1, rfl⟩

/-- The parameters of a class and of a regular function are legible. -/
theorem legible_of_mem_inspect (hshape : (inspect shapes source).shape = some shape)
    (hlist : shape ≠ .arrowFunction) {parameter : Parameter}
    (hmem : parameter ∈ (inspect shapes source).parameters) : Report.Legible parameter := by
  obtain ⟨raw, hcapture, hparameters⟩ := exists_capture_of_shape hshape
  rw [hparameters] at hmem
  obtain ⟨hclosed, hsubset⟩ := Shape.subset_of_capture hlist hcapture
  have hname := parseParameterList_subset hmem
  have hdeclarable := declarable_of_mem hmem
  have hline : source.joinLines.trimStart ⊆ source.joinLines :=
    (List.dropWhile_suffix _).subset
  exact
    { closing := fun hclosing ↦ hclosed (hname hclosing)
      onLine := fun hbreak ↦
        (oneLine_joinLines source).not_mem (hline (hsubset (hname hbreak)))
      oneMarker := hdeclarable.hasDefault_eq_false
      unmarked := hdeclarable.no_restMarker }

/-- The plain report of a class or of a regular function has one line for each parameter, which
shows it, so reports that are equal report equal parameters. -/
theorem plain_readable (hshape : (inspect shapes source).shape = some shape)
    (hlist : shape ≠ .arrowFunction) :
    (∃ lines, (Report.plain (inspect shapes source).parameters).splitOn '\n' = lines ++ [[]] ∧
      lines.map Report.readLine = (inspect shapes source).parameters) ∧
    ∀ (others : ShapeSet) (other : Text) (otherShape : Shape),
      (inspect others other).shape = some otherShape → otherShape ≠ .arrowFunction →
      Report.plain (inspect others other).parameters =
        Report.plain (inspect shapes source).parameters →
      (inspect others other).parameters = (inspect shapes source).parameters := by
  have hread := Report.exists_lines_plain fun _ hmem ↦ legible_of_mem_inspect hshape hlist hmem
  refine ⟨hread, ?_⟩
  intro others other otherShape hother hotherList hplain
  obtain ⟨lines, hlines, hparameters⟩ := hread
  obtain ⟨otherLines, hotherLines, hotherParameters⟩ :=
    Report.exists_lines_plain fun _ hmem ↦ legible_of_mem_inspect hother hotherList hmem
  rw [hplain, hlines] at hotherLines
  rw [← hparameters, ← hotherParameters, List.append_cancel_right hotherLines]

/-- A regular function whose names imitate the markers as far as they can, and a class with the same
report. -/
theorem plain_readable_of_dots :
    (∃ lines,
      (Report.plain [.plain ['.', '.'], .defaulted "b (default".toList,
        .rest [' ', 'c']]).splitOn '\n' = lines ++ [[]] ∧
      lines.map Report.readLine =
        [.plain ['.', '.'], .defaulted "b (default".toList, .rest [' ', 'c']]) ∧
    (inspect (.only .classConstructor)
        "class A { constructor(.., b (default = 2, ... c) {} }".toList).parameters =
      (inspect .all "function f(.., b (default = 1, ... c) {}".toList).parameters := by
  have hregular : (inspect .all "function f(.., b (default = 1, ... c) {}".toList).shape =
      some .regularFunction := by decide +kernel
  have hclass : (inspect (.only .classConstructor)
      "class A { constructor(.., b (default = 2, ... c) {} }".toList).shape =
        some .classConstructor := by decide +kernel
  have hparameters : (inspect .all "function f(.., b (default = 1, ... c) {}".toList).parameters =
      [.plain ['.', '.'], .defaulted "b (default".toList, .rest [' ', 'c']] := by decide +kernel
  have hreadable := plain_readable hregular (by decide)
  have hsame := hreadable.2 _ _ _ hclass (by decide) (by decide +kernel)
  rw [hparameters] at hreadable
  exact ⟨hreadable.1, hsame⟩

end DeclaredParams
