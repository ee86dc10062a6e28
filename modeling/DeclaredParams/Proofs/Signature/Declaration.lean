import DeclaredParams.Proofs.Parameter.Item
import DeclaredParams.Proofs.Signature.Selection

/-!
# Declarations are read back

`Declares` lists the ways to write down a callable with given items around which any other text may
stand: a regular function, an arrow function with its list in parentheses or with a bare name, and a
class with a constructor. Each way asks of the surrounding text only what keeps another list or
another shape from being found first. `inspect_of_declares` says that the inspection of such a
declaration reports its shape and exactly its items.
-/

set_option autoImplicit false
set_option relaxedAutoImplicit false

namespace DeclaredParams

open Text

/-! ### Written declarations -/

/-- A text declares a callable of some shape with the given items, as a selection of shapes reads
it. -/
inductive Declares : List Item → Shape → ShapeSet → Text → Prop where
  /-- A regular function. No parenthesis opens before its list, no value closes the list, and no
  arrow claims the text. -/
  | regularFunction {items : List Item} {shapes : ShapeSet} {head behind : Text}
      (henabled : shapes.isEnabled .regularFunction) (hhead : '(' ∉ head)
      (hvalues : ∀ item ∈ items, ')' ∉ item.value)
      (harrow : shapes.isEnabled .arrowFunction = false ∨
        ¬ Shape.arrow <:+: Shape.regularText head (writtenList items) behind) :
      Declares items .regularFunction shapes
        (Shape.regularText head (writtenList items) behind)
  /-- An arrow function with its list in parentheses. No value holds an arrow. -/
  | arrowFunction {items : List Item} {shapes : ShapeSet} {gap behind : Text}
      (henabled : shapes.isEnabled .arrowFunction) (hgap : OnlyBlanks gap)
      (hvalues : ∀ item ∈ items, ¬ Shape.arrow <:+: item.value) :
      Declares items .arrowFunction shapes (Shape.arrowText (writtenList items) gap behind)
  /-- An arrow function with a bare name, which is not the keyword of a class. -/
  | bareArrowFunction {name : WrittenName} {shapes : ShapeSet} {gap behind : Text}
      (henabled : shapes.isEnabled .arrowFunction) (hgap : OnlyBlanks gap)
      (hname : name.text ≠ "class".toList) :
      Declares [.plain name] .arrowFunction shapes (name.text ++ (gap ++ (Shape.arrow ++ behind)))
  /-- A class with a constructor. No value closes its list, and no constructor with a list starts
  behind its opening parenthesis. -/
  | classConstructor {items : List Item} {shapes : ShapeSet} {blank : Char}
      {skipped gap behind : Text}
      (henabled : shapes.isEnabled .classConstructor) (hblank : isBlank blank)
      (hgap : OnlyBlanks gap) (hvalues : ∀ item ∈ items, ')' ∉ item.value)
      (hlast : ∀ further later other, writtenList items ++ ')' :: behind = further ++ later →
        ¬ Shape.StartsWithConstructor later other) :
      Declares items .classConstructor shapes
        (Shape.classText blank skipped gap (writtenList items) behind)

/-! ### Where a list ends -/

/-- A list whose values do not close it holds no closing parenthesis. -/
theorem closing_not_mem_writtenList {items : List Item}
    (hvalues : ∀ item ∈ items, ')' ∉ item.value) : ')' ∉ writtenList items := by
  apply not_mem_writtenList (by decide)
  intro item hitem
  exact Item.not_mem_written (by decide) (by decide) (hvalues item hitem)

/-- A list whose values hold no arrow holds none. -/
theorem arrow_not_isInfix_writtenList {items : List Item}
    (hvalues : ∀ item ∈ items, ¬ Shape.arrow <:+: item.value) :
    ¬ Shape.arrow <:+: writtenList items := by
  apply not_pair_isInfix_writtenList (by decide) (by decide)
  intro item hitem
  exact Item.not_pair_isInfix_written (by decide) (by decide) (by decide) (hvalues item hitem)

/-! ### Bare names -/

/-- A bare name before an arrow is the whole list. -/
theorem capture_bareArrow (name : WrittenName) {gap : Text} (hgap : OnlyBlanks gap)
    (behind : Text) :
    Shape.capture .arrowFunction (name.text ++ (gap ++ (Shape.arrow ++ behind))) =
      some (trim name.text) := by
  have hequals : '=' ∉ name.text ++ gap := by
    rw [List.mem_append, not_or]
    exact ⟨name.not_mem (by decide), hgap.not_mem (by decide)⟩
  have hcut : cut? Shape.arrow (name.text ++ (gap ++ (Shape.arrow ++ behind))) =
      some (name.text ++ gap, behind) := by
    rw [← List.append_assoc, Shape.arrow, cut?_append_left hequals,
      cut?_of_isPrefix (List.prefix_append _ _)]
    simp
  have hlist : Shape.arrowList (name.text ++ gap) = name.text := by
    have hopening : ¬ ∃ rest, name.text ++ gap = '(' :: rest := by
      rintro ⟨rest, hrest⟩
      obtain ⟨first, others, htext, -, -⟩ := name.exists_head
      rw [htext, List.cons_append, List.cons.injEq] at hrest
      exact name.not_mem (show isNameCharacter '(' = false by decide)
        (by rw [htext, hrest.1]; simp)
    have hlast : trimEnd name.text = name.text :=
      trimEnd_eq_self fun _ hmem ↦ name.isBlank_of_mem hmem
    rw [Shape.arrowList_eq_of_not_opening hopening, trimEnd_append hgap, hlast,
      Shape.withoutClosing_eq_self]
    intro hclosing
    exact name.not_mem (by decide) (List.mem_of_getLast? hclosing)
  have honLine : '\n' ∉ name.text := name.not_mem (by decide)
  rw [Shape.capture_arrow_of_cut hcut (by rwa [hlist]), hlist]

/-- A bare name other than the keyword does not start a class. -/
theorem capture_class_bareArrow {name : WrittenName} (hname : name.text ≠ "class".toList)
    {gap : Text} (hgap : OnlyBlanks gap) (behind : Text) :
    Shape.capture .classConstructor (name.text ++ (gap ++ (Shape.arrow ++ behind))) = none := by
  rw [Option.eq_none_iff_forall_ne_some]
  intro list hcapture
  rw [Shape.capture_eq, Option.map_eq_some_iff] at hcapture
  obtain ⟨raw, hraw, -⟩ := hcapture
  obtain ⟨blank, line, hsplit, hblank, -⟩ := Shape.capture_classPattern.mp hraw
  rcases List.append_eq_append_iff.mp hsplit with
    ⟨behind', hkeyword, hrest⟩ | ⟨others, htext, hrest⟩
  · -- The name is a part of the keyword, and a blank or the arrow would have to go on with it.
    cases behind' with
    | nil => exact hname (by rw [hkeyword, List.append_nil])
    | cons first others =>
      have hletters : "class".toList.all (fun letter ↦ !isBlank letter && letter != '=') := by
        decide
      have hmem : first ∈ "class".toList := by
        rw [hkeyword]
        simp
      have hfirst : isBlank first = false ∧ first ≠ '=' := by
        simpa using List.all_eq_true.mp hletters first hmem
      cases gap with
      | nil => exact hfirst.2 (List.cons.inj hrest).1.symm
      | cons head tail =>
        have hhead := hgap head (by simp)
        rw [(List.cons.inj hrest).1, hfirst.1] at hhead
        exact Bool.false_ne_true hhead
  · -- The keyword is a part of the name, and the blank behind it would have to be one too.
    cases others with
    | nil => exact hname (by rw [htext, List.append_nil])
    | cons first others =>
      have hmem : blank ∈ name.text := by
        rw [htext, (List.cons.inj hrest).1]
        simp
      rw [name.isBlank_of_mem hmem] at hblank
      exact Bool.false_ne_true hblank

/-! ### Inspections of declarations -/

/-- A declaration is read back: its shape and its items, in order. -/
theorem inspect_of_declares {items : List Item} {shape : Shape} {shapes : ShapeSet}
    {source : Text} (hdeclares : Declares items shape shapes source) (honLine : OneLine source) :
    inspect shapes source = ⟨some shape, items.map Item.parameter⟩ := by
  cases hdeclares with
  | @regularFunction _ _ head behind henabled hhead hvalues harrow =>
    rw [inspect_regularText henabled honLine hhead (closing_not_mem_writtenList hvalues) harrow,
      parseParameterList_writtenList]
  | @arrowFunction _ _ gap behind henabled hgap hvalues =>
    have hline : '\n' ∉ writtenList items := by
      intro hmem
      have hwhole : '\n' ∈ Shape.arrowText (writtenList items) gap behind :=
        List.mem_cons_of_mem _ (List.mem_append_left _ hmem)
      exact absurd hwhole honLine.not_mem
    have hcapture :=
      Shape.capture_arrowText hline (arrow_not_isInfix_writtenList hvalues) hgap behind
    rw [inspect_of_capture honLine (Shape.trimStart_arrowText _ _ _) henabled hcapture,
      parseParameterList_writtenList]
    intro earlier hprecedes _
    cases earlier with
    | classConstructor => exact Shape.capture_class_eq_none (by decide)
    | arrowFunction => exact absurd hprecedes (by decide)
    | regularFunction => exact absurd hprecedes (by decide)
  | @bareArrowFunction name _ gap behind henabled hgap hname =>
    have hstart : trimStart (name.text ++ (gap ++ (Shape.arrow ++ behind))) =
        name.text ++ (gap ++ (Shape.arrow ++ behind)) := by
      obtain ⟨first, others, htext, hfirst, -⟩ := name.exists_head
      rw [htext, List.cons_append, trimStart_cons hfirst]
    have hlist : parseParameterList name.text = [Item.parameter (.plain name)] := by
      have hsingle := parseParameterList_writtenList [.plain name]
      rwa [writtenList_singleton] at hsingle
    rw [inspect_of_capture honLine hstart henabled (capture_bareArrow name hgap behind), hlist,
      List.map_cons, List.map_nil]
    intro earlier hprecedes _
    cases earlier with
    | classConstructor => exact capture_class_bareArrow hname hgap behind
    | arrowFunction => exact absurd hprecedes (by decide)
    | regularFunction => exact absurd hprecedes (by decide)
  | @classConstructor _ _ blank skipped gap behind henabled hblank hgap hvalues hlast =>
    have hline : '\n' ∉ skipped := by
      intro hmem
      have hwhole : '\n' ∈ Shape.classText blank skipped gap (writtenList items) behind :=
        List.mem_append_right _ (List.mem_cons_of_mem _ (List.mem_append_left _ hmem))
      exact absurd hwhole honLine.not_mem
    have hcapture :=
      Shape.capture_classText hblank hline hgap (closing_not_mem_writtenList hvalues) hlast
    rw [inspect_of_capture honLine (Shape.trimStart_classText _ _ _ _ _) henabled hcapture,
      parseParameterList_writtenList]
    intro earlier hprecedes _
    cases earlier <;> exact absurd hprecedes (by decide)

/-- A class that mentions another constructor first, with a parenthesis that a value leaves open. -/
theorem inspect_of_declares_class :
    inspect .all "class A { constructor(x); constructor (a, b = g(1, ...c) {} }".toList =
      ⟨some .classConstructor, [.plain ['a'], .defaulted ['b'], .rest ['c']]⟩ := by
  have hlist : writtenList
      [.plain ⟨['a'], by simp, List.all_eq_true.mp rfl⟩,
        .defaulted ⟨['b'], by simp, List.all_eq_true.mp rfl⟩
          ⟨['g', '(', '1'], by decide, by decide, not_pair_isInfix_of_not_mem (by decide)⟩,
        .rest ⟨['c'], by simp, List.all_eq_true.mp rfl⟩] = "a, b = g(1, ...c".toList := by
    decide +kernel
  have hsource :
      Shape.classText ' ' "A \x7b constructor(x); ".toList [' '] "a, b = g(1, ...c".toList
        " \x7b\x7d \x7d".toList =
          "class A { constructor(x); constructor (a, b = g(1, ...c) {} }".toList := by
    decide +kernel
  have hkeyword : ¬ "constructor".toList <:+:
      "a, b = g(1, ...c".toList ++ ')' :: " \x7b\x7d \x7d".toList :=
    cut?_eq_none_iff.mp (by decide +kernel)
  have hlast := Shape.not_startsWithConstructor_of_not_isInfix hkeyword
  rw [← hsource, ← hlist]
  rw [← hlist] at hlast
  exact inspect_of_declares
    (.classConstructor rfl (by decide) (by decide) (by simp [Item.value]) hlast)
    (by rw [hlist, hsource]; decide +kernel)

end DeclaredParams
