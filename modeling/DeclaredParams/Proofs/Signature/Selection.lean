import DeclaredParams.Proofs.Parameter.Token
import DeclaredParams.Proofs.Shape.Comparison
import DeclaredParams.Signature.Inspect

/-!
# What the selection of shapes decides

`recogniseLine_eq_some_iff` says which answer a selection gets on a line: that of an enabled shape
that captures, with every enabled shape before it silent. From this follow the two laws of
selections. An inspection is the inspection with one shape alone, the first enabled one that
recognises the source (`inspect_eq_alone`). A wider selection recognises what a narrower one does,
and its answer differs only where a shape that the narrower one left out comes first
(`exists_recogniseLine_of_le`). Without an arrow at most one shape captures, so all selections that
recognise a source agree on it (`inspect_unique`).
-/

set_option autoImplicit false
set_option relaxedAutoImplicit false

namespace DeclaredParams

open Text

/-! ### The order of the shapes -/

namespace Shape

/-- One shape is tried before the other. -/
def Precedes (earlier later : Shape) : Prop :=
  priority.idxOf earlier < priority.idxOf later

instance (earlier later : Shape) : Decidable (Precedes earlier later) :=
  inferInstanceAs (Decidable (_ < _))

/-- Of two different shapes one is tried before the other. -/
theorem precedes_trichotomy (first second : Shape) :
    Precedes first second ∨ first = second ∨ Precedes second first := by
  cases first <;> cases second <;> decide

/-- What holds of the three shapes holds of all. -/
theorem forall_iff {property : Shape → Prop} :
    (∀ shape, property shape) ↔
      property .classConstructor ∧ property .arrowFunction ∧ property .regularFunction := by
  constructor
  · intro hall
    exact ⟨hall _, hall _, hall _⟩
  · rintro ⟨hclass, harrow, hregular⟩ shape
    cases shape
    · exact hclass
    · exact harrow
    · exact hregular

/-- The first shape with a property has it, and no shape before it does. -/
theorem find?_priority_eq_some_iff (property : Shape → Bool) (shape : Shape) :
    priority.find? property = some shape ↔
      property shape ∧ ∀ earlier, Precedes earlier shape → property earlier = false := by
  rw [forall_iff]
  cases shape <;> cases hclass : property .classConstructor <;>
    cases harrow : property .arrowFunction <;>
      simp +decide [priority, hclass, harrow]

end Shape

namespace ShapeSet

/-- Every shape of the first selection belongs to the second. -/
instance : LE ShapeSet :=
  ⟨fun narrow wide ↦ ∀ shape, narrow.isEnabled shape → wide.isEnabled shape⟩

theorem isEnabled_only (member shape : Shape) :
    (only member).isEnabled shape = decide (member = shape) := by
  cases member <;> cases shape <;> rfl

/-- Where one shape alone is enabled, none before it is. -/
theorem not_isEnabled_only {earlier shape : Shape} (hprecedes : Shape.Precedes earlier shape) :
    ¬ (only shape).isEnabled earlier := by
  rw [isEnabled_only, decide_eq_true_eq]
  rintro rfl
  exact Nat.lt_irrefl _ hprecedes

theorem isEnabled_all (shape : Shape) : all.isEnabled shape = true := by
  cases shape <;> rfl

end ShapeSet

/-! ### The answer of a selection -/

/-- The first enabled shape that captures gives the answer. -/
theorem recogniseLine_eq_find? (shapes : ShapeSet) (line : Text) :
    recogniseLine shapes line =
      (Shape.priority.find? fun shape ↦ shapes.isEnabled shape && (shape.capture line).isSome).bind
        fun shape ↦ (shape.capture line).map fun raw ↦ ⟨shape, raw⟩ := by
  rw [recogniseLine, ShapeSet.enabledShapes]
  induction Shape.priority with
  | nil => rfl
  | cons shape others ih =>
    by_cases henabled : shapes.isEnabled shape
    · rw [List.filter_cons_of_pos henabled, List.findSome?_cons, List.find?_cons, henabled,
        Bool.true_and]
      cases hcapture : shape.capture line with
      | none => simpa using ih
      | some raw => simp [hcapture]
    · rw [List.filter_cons_of_neg henabled, ih, List.find?_cons]
      simp [henabled]

/-- The answer is what an enabled shape captures while the enabled shapes before it are silent. -/
theorem recogniseLine_eq_some_iff {shapes : ShapeSet} {line : Text} {found : Recognition} :
    recogniseLine shapes line = some found ↔
      shapes.isEnabled found.shape ∧ found.shape.capture line = some found.raw ∧
        ∀ earlier, Shape.Precedes earlier found.shape → shapes.isEnabled earlier →
          earlier.capture line = none := by
  rw [recogniseLine_eq_find?, Option.bind_eq_some_iff]
  constructor
  · rintro ⟨shape, hfind, hfound⟩
    obtain ⟨raw, hraw, rfl⟩ := Option.map_eq_some_iff.mp hfound
    obtain ⟨hshape, hearlier⟩ := (Shape.find?_priority_eq_some_iff _ _).mp hfind
    rw [Bool.and_eq_true] at hshape
    refine ⟨hshape.1, hraw, ?_⟩
    intro earlier hprecedes henabled
    have hsilent := hearlier earlier hprecedes
    rw [henabled, Bool.true_and, Option.isSome_eq_false_iff, Option.isNone_iff_eq_none] at hsilent
    exact hsilent
  · rintro ⟨henabled, hraw, hearlier⟩
    refine ⟨found.shape, (Shape.find?_priority_eq_some_iff _ _).mpr ⟨?_, ?_⟩, ?_⟩
    · rw [henabled, hraw]
      rfl
    · intro earlier hprecedes
      cases hother : shapes.isEnabled earlier with
      | false => rfl
      | true => rw [hearlier earlier hprecedes hother]; rfl
    · rw [hraw]
      rfl

/-- There is no answer when every enabled shape is silent. -/
theorem recogniseLine_eq_none_iff {shapes : ShapeSet} {line : Text} :
    recogniseLine shapes line = none ↔
      ∀ shape, shapes.isEnabled shape → shape.capture line = none := by
  have hmem : ∀ shape, shape ∈ Shape.priority := by
    intro shape
    cases shape <;> decide
  rw [recogniseLine, List.findSome?_eq_none_iff]
  constructor
  · intro hnone shape henabled
    have hsilent := hnone shape (List.mem_filter.mpr ⟨hmem shape, henabled⟩)
    rwa [Option.map_eq_none_iff] at hsilent
  · intro hsilent shape hshape
    rw [hsilent shape (List.mem_filter.mp hshape).2, Option.map_none]

/-- A shape alone answers with what it captures. -/
theorem recogniseLine_only (shape : Shape) (line : Text) :
    recogniseLine (.only shape) line = (shape.capture line).map fun raw ↦ ⟨shape, raw⟩ := by
  cases hcapture : shape.capture line with
  | none =>
    rw [Option.map_none, recogniseLine_eq_none_iff]
    intro other henabled
    rw [ShapeSet.isEnabled_only, decide_eq_true_eq] at henabled
    rwa [← henabled]
  | some raw =>
    rw [Option.map_some, recogniseLine_eq_some_iff]
    refine ⟨by simp [ShapeSet.isEnabled_only], hcapture, ?_⟩
    intro earlier hprecedes henabled
    exact absurd henabled (ShapeSet.not_isEnabled_only hprecedes)

/-- A wider selection answers as the narrower one does, or with an earlier shape that the narrower
one left out. -/
theorem exists_recogniseLine_of_le {narrow wide : ShapeSet} (hle : narrow ≤ wide) {line : Text}
    {found : Recognition} (hfound : recogniseLine narrow line = some found) :
    ∃ other, recogniseLine wide line = some other ∧
      (other = found ∨
        narrow.isEnabled other.shape = false ∧ Shape.Precedes other.shape found.shape) := by
  obtain ⟨henabled, hraw, hearlier⟩ := recogniseLine_eq_some_iff.mp hfound
  cases hwide : recogniseLine wide line with
  | none =>
    rw [recogniseLine_eq_none_iff] at hwide
    rw [hwide found.shape (hle found.shape henabled)] at hraw
    exact absurd hraw (by simp)
  | some other =>
    refine ⟨other, rfl, ?_⟩
    obtain ⟨hother, hotherRaw, hotherEarlier⟩ := recogniseLine_eq_some_iff.mp hwide
    rcases Shape.precedes_trichotomy other.shape found.shape with hbefore | hsame | hafter
    · right
      refine ⟨?_, hbefore⟩
      cases hnarrow : narrow.isEnabled other.shape with
      | false => rfl
      | true =>
        rw [hearlier other.shape hbefore hnarrow] at hotherRaw
        exact absurd hotherRaw (by simp)
    · left
      rw [hsame, hraw, Option.some.injEq] at hotherRaw
      cases other
      cases found
      simp_all
    · rw [hotherEarlier found.shape hafter (hle found.shape henabled)] at hraw
      exact absurd hraw (by simp)

/-- On a line without an arrow all selections that answer give the same answer. -/
theorem recogniseLine_unique {first second : ShapeSet} {line : Text} {found other : Recognition}
    (hline : ¬ Shape.arrow <:+: line) (hfirst : recogniseLine first line = some found)
    (hsecond : recogniseLine second line = some other) : found = other := by
  have hfound := (recogniseLine_eq_some_iff.mp hfirst).2.1
  have hother := (recogniseLine_eq_some_iff.mp hsecond).2.1
  have hshape : found.shape = other.shape := Shape.eq_of_capture hline hfound hother
  rw [hshape, hother, Option.some.injEq] at hfound
  cases found
  cases other
  simp_all

/-! ### Inspections -/

theorem matchedShape_eq_inspect_shape (shapes : ShapeSet) (source : Text) :
    matchedShape shapes source = (inspect shapes source).shape := by
  rw [matchedShape, inspect]
  cases recognise shapes source <;> rfl

/-- A recognised source has the signature of its recognition. -/
theorem inspect_of_recognise {shapes : ShapeSet} {source : Text} {found : Recognition}
    (hfound : recognise shapes source = some found) :
    inspect shapes source = ⟨some found.shape, parseParameterList found.raw⟩ := by
  rw [inspect, hfound]
  rfl

/-- A source on one line without blanks in front is inspected as it stands: the first shape that
captures gives the signature. -/
theorem inspect_of_capture {shapes : ShapeSet} {source raw : Text} {shape : Shape}
    (honLine : OneLine source) (hstart : trimStart source = source)
    (henabled : shapes.isEnabled shape) (hcapture : shape.capture source = some (trim raw))
    (hearlier : ∀ earlier, Shape.Precedes earlier shape → shapes.isEnabled earlier →
      earlier.capture source = none) :
    inspect shapes source = ⟨some shape, parseParameterList raw⟩ := by
  have hfound : recognise shapes source = some ⟨shape, trim raw⟩ := by
    rw [recognise, joinLines_eq_self honLine, hstart]
    exact recogniseLine_eq_some_iff.mpr ⟨henabled, hcapture, hearlier⟩
  rw [inspect_of_recognise hfound, parseParameterList_trim]

/-- A regular function on one line is read as one when no arrow claims it. -/
theorem inspect_regularText {shapes : ShapeSet} {head list behind : Text}
    (henabled : shapes.isEnabled .regularFunction)
    (honLine : OneLine (Shape.regularText head list behind)) (hhead : '(' ∉ head)
    (hclosed : ')' ∉ list)
    (harrow : shapes.isEnabled .arrowFunction = false ∨
      ¬ Shape.arrow <:+: Shape.regularText head list behind) :
    inspect shapes (Shape.regularText head list behind) =
      ⟨some .regularFunction, parseParameterList list⟩ := by
  have hline : '\n' ∉ head.tail := by
    intro hmem
    have hwhole : '\n' ∈ Shape.regularText head list behind :=
      List.mem_append_right _ (List.mem_append_left _ (List.mem_of_mem_tail hmem))
    exact absurd hwhole honLine.not_mem
  have hcapture := Shape.capture_regularText hhead hline hclosed behind
  apply inspect_of_capture honLine (Shape.trimStart_regularText _ _ _) henabled hcapture
  intro earlier hprecedes hearlier
  cases earlier with
  | classConstructor =>
    have hexclusive := Shape.capture_class_eq_none_or_capture_regular_eq_none
      (Shape.regularText head list behind)
    rw [hcapture] at hexclusive
    exact hexclusive.resolve_right (by simp)
  | arrowFunction =>
    rcases harrow with hdisabled | harrow
    · rw [hdisabled] at hearlier
      exact absurd hearlier Bool.false_ne_true
    · exact Shape.capture_arrow_eq_none harrow
  | regularFunction => exact absurd hprecedes (by decide)

/-- A source on one line that is no class is an arrow function as soon as it holds an arrow. -/
theorem inspect_shape_of_arrow {shapes : ShapeSet} {source : Text} (honLine : OneLine source)
    (hstart : trimStart source = source) (henabled : shapes.isEnabled .arrowFunction)
    (hclass : Shape.capture .classConstructor source = none) (harrow : Shape.arrow <:+: source) :
    (inspect shapes source).shape = some .arrowFunction := by
  obtain ⟨raw, hcapture⟩ := Shape.exists_capture_arrow honLine.not_mem harrow
  rw [inspect_of_capture honLine hstart henabled hcapture]
  intro earlier hprecedes _
  cases earlier with
  | classConstructor => exact hclass
  | arrowFunction => exact absurd hprecedes (by decide)
  | regularFunction => exact absurd hprecedes (by decide)

/-- Line breaks in a source make no difference. -/
theorem inspect_joinLines (shapes : ShapeSet) (source : Text) :
    inspect shapes (joinLines source) = inspect shapes source := by
  rw [inspect, inspect, recognise, recognise, joinLines_eq_self (oneLine_joinLines source)]

/-- A shape recognises the source when it is selected alone. -/
def recognisedAlone (source : Text) (shape : Shape) : Bool :=
  (matchedShape (.only shape) source).isSome

theorem recognisedAlone_eq (source : Text) (shape : Shape) :
    recognisedAlone source shape = (shape.capture source.joinLines.trimStart).isSome := by
  rw [recognisedAlone, matchedShape, recognise, recogniseLine_only]
  cases shape.capture source.joinLines.trimStart <;> rfl

/-- An inspection is the inspection with one shape alone: the first enabled one that recognises the
source. -/
theorem inspect_eq_alone (shapes : ShapeSet) (source : Text) :
    inspect shapes source =
      match Shape.priority.find? fun shape ↦
          shapes.isEnabled shape && recognisedAlone source shape with
      | some shape => inspect (.only shape) source
      | none => .empty := by
  have hfind := recogniseLine_eq_find? shapes source.joinLines.trimStart
  simp only [← recognisedAlone_eq source] at hfind
  rw [inspect, recognise, hfind]
  cases (Shape.priority.find? fun shape ↦
      shapes.isEnabled shape && recognisedAlone source shape) with
  | none => rfl
  | some shape =>
    rw [Option.bind_some, ← recogniseLine_only]
    rfl

/-- What a narrower selection recognises a wider one does, with the same signature unless an earlier
shape that the narrower one left out comes first. -/
theorem inspect_of_le {narrow wide : ShapeSet} (hle : narrow ≤ wide) {source : Text}
    (hmatched : (matchedShape narrow source).isSome) :
    (matchedShape wide source).isSome ∧
      (inspect wide source = inspect narrow source ∨
        ∃ earlier later, (inspect wide source).shape = some earlier ∧
          (inspect narrow source).shape = some later ∧ narrow.isEnabled earlier = false ∧
            Shape.Precedes earlier later) := by
  rw [matchedShape, Option.isSome_map, Option.isSome_iff_exists] at hmatched
  obtain ⟨found, hfound⟩ := hmatched
  obtain ⟨other, hother, hrelated⟩ := exists_recogniseLine_of_le hle hfound
  have hwide : recognise wide source = some other := hother
  refine ⟨by rw [matchedShape, hwide]; rfl, ?_⟩
  rw [inspect_of_recognise hwide, inspect_of_recognise hfound]
  rcases hrelated with rfl | ⟨hleft, hprecedes⟩
  · exact Or.inl rfl
  · exact Or.inr ⟨other.shape, found.shape, rfl, rfl, hleft, hprecedes⟩

/-- On a source without an arrow all selections that recognise it report the same signature. -/
theorem inspect_unique {first second : ShapeSet} {source : Text}
    (hsource : ¬ Shape.arrow <:+: joinLines source) (hfirst : (matchedShape first source).isSome)
    (hsecond : (matchedShape second source).isSome) :
    inspect first source = inspect second source := by
  rw [matchedShape, Option.isSome_map, Option.isSome_iff_exists] at hfirst hsecond
  obtain ⟨found, hfound⟩ := hfirst
  obtain ⟨other, hother⟩ := hsecond
  have hline : ¬ Shape.arrow <:+: trimStart (joinLines source) := by
    intro hoccurs
    exact hsource (List.IsInfix.trans hoccurs (List.dropWhile_suffix _).isInfix)
  rw [inspect_of_recognise hfound, inspect_of_recognise hother,
    recogniseLine_unique hline hfound hother]

/-- How the inspections of one source under different selections are related. -/
theorem inspect_under_selections (source : Text) :
    (∀ shapes, matchedShape shapes source = (inspect shapes source).shape ∧
      extract shapes source = (inspect shapes source).parameters ∧
      inspect shapes source =
        match Shape.priority.find? fun shape ↦
            shapes.isEnabled shape && (matchedShape (.only shape) source).isSome with
        | some shape => inspect (.only shape) source
        | none => .empty) ∧
    (∀ narrow wide, (∀ shape, narrow.isEnabled shape → wide.isEnabled shape) →
      (matchedShape narrow source).isSome →
      (matchedShape wide source).isSome ∧
        (inspect wide source = inspect narrow source ∨
          ∃ earlier later, (inspect wide source).shape = some earlier ∧
            (inspect narrow source).shape = some later ∧ narrow.isEnabled earlier = false ∧
              Shape.Precedes earlier later)) ∧
    (∀ text, Shape.capture .classConstructor text = none ∨
      Shape.capture .regularFunction text = none) ∧
    (¬ Shape.arrow <:+: joinLines source → ∀ first second,
      (matchedShape first source).isSome → (matchedShape second source).isSome →
        inspect first source = inspect second source) := by
  refine ⟨?_, ?_, ?_, ?_⟩
  · intro shapes
    exact ⟨matchedShape_eq_inspect_shape shapes source, rfl, inspect_eq_alone shapes source⟩
  · intro narrow wide hle hmatched
    exact inspect_of_le hle hmatched
  · exact Shape.capture_class_eq_none_or_capture_regular_eq_none
  · intro hsource first second hfirst hsecond
    exact inspect_unique hsource hfirst hsecond

/-- An arrow in the body of a regular function claims it as soon as arrow functions are selected,
and a body without one leaves the selections in agreement. -/
theorem inspect_under_selections_of_body :
    (∃ earlier later,
      (inspect .all "function f(a) { return b => a; }".toList).shape = some earlier ∧
        (inspect (.only .regularFunction) "function f(a) { return b => a; }".toList).shape =
          some later ∧ Shape.Precedes earlier later) ∧
    inspect .all "function f(a) {}".toList =
      inspect (.only .regularFunction) "function f(a) {}".toList := by
  constructor
  · have hwider := (inspect_under_selections "function f(a) { return b => a; }".toList).2.1
      (.only .regularFunction) .all (fun shape _ ↦ ShapeSet.isEnabled_all shape)
      (by decide +kernel)
    rcases hwider.2 with hsame | ⟨earlier, later, hwide, hnarrow, -, hprecedes⟩
    · have hshapes := congrArg Signature.shape hsame
      rw [← matchedShape_eq_inspect_shape, ← matchedShape_eq_inspect_shape] at hshapes
      exact absurd hshapes (by decide +kernel)
    · exact ⟨earlier, later, hwide, hnarrow, hprecedes⟩
  · have harrow : ¬ Shape.arrow <:+: joinLines "function f(a) {}".toList :=
      not_pair_isInfix_of_not_mem (Or.inl (by decide +kernel))
    exact (inspect_under_selections "function f(a) {}".toList).2.2.2 harrow .all
      (.only .regularFunction) (by decide +kernel) (by decide +kernel)

end DeclaredParams
