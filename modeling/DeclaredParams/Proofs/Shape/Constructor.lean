import DeclaredParams.Proofs.Shape.Parenthesised

/-!
# The constructor of a class

`StartsWithConstructor` says where a constructor with its list stands, and `lastList` is the list of
the last one on a line, described by `LastConstructor`. This is the list that a class has captured
(`capture_classPattern`), wherever the constructor of the class itself stands, so text put behind a
class may replace its list. `capture_class_append` says with which one, and
`capture_class_append_iff` when the list stays: no constructor with another list comes last behind
it on the same line. A call in the body of a method is such a constructor.
-/

set_option autoImplicit false
set_option relaxedAutoImplicit false

namespace DeclaredParams.Shape

open Text

variable {text line list : Text}

/-! ### A constructor with its list -/

/-- The text starts with a constructor, and `list` stands in the parentheses behind it. -/
def StartsWithConstructor (text list : Text) : Prop :=
  ∃ gap rest, text = "constructor".toList ++ (gap ++ rest) ∧ OnlyBlanks gap ∧
    StartsWithList rest list

theorem StartsWithConstructor.append (hconstructor : StartsWithConstructor text list)
    (behind : Text) : StartsWithConstructor (text ++ behind) list := by
  obtain ⟨gap, rest, rfl, hgap, hlist⟩ := hconstructor
  exact ⟨gap, rest ++ behind, by simp only [List.append_assoc], hgap, hlist.append behind⟩

/-- The keyword of a constructor ends in no proper initial part of itself. -/
theorem constructor_not_overlapping {front back : Text}
    (hsplit : "constructor".toList = front ++ back) (hfront : front ≠ [])
    (hback : back <+: "constructor".toList) : back = [] := by
  have hchecked : ∀ length ∈ List.range 12, length ≠ 0 →
      "constructor".toList.drop length <+: "constructor".toList →
        "constructor".toList.drop length = [] := by decide
  have hdrop : back = "constructor".toList.drop front.length := by
    rw [hsplit, List.drop_left]
  have hlength : front.length ≤ 11 := by
    have htotal := congrArg List.length hsplit
    rw [List.length_append] at htotal
    have heleven : "constructor".toList.length = 11 := rfl
    omega
  rw [hdrop] at hback ⊢
  exact hchecked front.length (List.mem_range.mpr (by omega))
    (fun hzero ↦ hfront (List.length_eq_zero_iff.mp hzero)) hback

/-- A constructor that starts later than another one starts behind its opening parenthesis. -/
theorem exists_append_of_later_constructor {gap behind further later other : Text}
    (hgap : OnlyBlanks gap)
    (hsplit : "constructor".toList ++ (gap ++ '(' :: behind) = further ++ later)
    (hfurther : further ≠ []) (hlater : StartsWithConstructor later other) :
    ∃ deeper, behind = deeper ++ later := by
  obtain ⟨gap', rest', rfl, -, -⟩ := hlater
  -- Between the two keywords stand only blanks and the parenthesis, none of which starts one.
  have hhead : ∀ part : Text, part ≠ [] → (∃ front, gap ++ ['('] = front ++ part) →
      part ++ behind ≠ "constructor".toList ++ (gap' ++ rest') := by
    rintro (_ | ⟨first, others⟩) hpart ⟨front, hfront⟩ hsame
    · exact hpart rfl
    · have hfirst : first = 'c' := (List.cons.inj hsame).1
      have hmem : 'c' ∈ gap ++ ['('] := by
        rw [hfront, hfirst]
        simp
      rcases List.mem_append.mp hmem with hmem | hmem
      · exact hgap.not_mem (by decide) hmem
      · exact absurd hmem (by decide)
  have hfront : ("constructor".toList ++ (gap ++ ['('])) ++ behind =
      further ++ ("constructor".toList ++ (gap' ++ rest')) := by
    rw [← hsplit]
    simp
  rcases List.append_eq_append_iff.mp hfront with ⟨inside, rfl, hbehind⟩ | ⟨part, hkeyword, hpart⟩
  · exact ⟨inside, hbehind⟩
  · by_cases hempty : part = []
    · rw [hempty, List.nil_append] at hpart
      exact ⟨[], hpart.symm⟩
    · rcases List.append_eq_append_iff.mp hkeyword with ⟨front, -, hgapPart⟩ | ⟨back, hback, rfl⟩
      · exact absurd hpart.symm (hhead part hempty ⟨front, hgapPart⟩)
      · have hstart : back <+: "constructor".toList := by
          have hlonger : back <+: "constructor".toList ++ (gap' ++ rest') := by
            rw [hpart, List.append_assoc]
            exact List.prefix_append _ _
          apply List.prefix_of_prefix_length_le hlonger (List.prefix_append _ _)
          have htotal := congrArg List.length hback
          rw [List.length_append] at htotal
          omega
        have hnil := constructor_not_overlapping hback hfurther hstart
        rw [hnil, List.nil_append] at hpart hempty
        exact absurd hpart.symm (hhead (gap ++ ['(']) hempty ⟨[], rfl⟩)

/-- Where the keyword does not occur, no constructor starts. -/
theorem not_startsWithConstructor_of_not_isInfix (htext : ¬ "constructor".toList <:+: text)
    (further later other : Text) (hsplit : text = further ++ later) :
    ¬ StartsWithConstructor later other := by
  rintro ⟨gap, rest, rfl, -, -⟩
  refine htext ⟨further, gap ++ rest, ?_⟩
  rw [hsplit, List.append_assoc]

/-- Blanks in front of a list are passed. -/
theorem capture_blanks_parenthesised :
    Pattern.capture (blanks ++ parenthesised) text = some list ↔
      ∃ gap rest, text = gap ++ rest ∧ OnlyBlanks gap ∧ StartsWithList rest list := by
  have hfew : Pattern.capture (blanks ++ parenthesised) text = some list ↔ _ :=
    Piece.few_eq_some_iff_of_disjoint ?_
  · rw [hfew]
    constructor
    · rintro ⟨gap, rest, found, hstops, rfl⟩
      rw [Piece.foldr_collect_of_not_kept rfl]
      exact ⟨gap, rest, hstops.text_eq, hstops.holds,
        capture_parenthesised.mp hstops.following_eq⟩
    · rintro ⟨gap, rest, rfl, hgap, hlist⟩
      refine ⟨gap, rest, list, ⟨rfl, hgap, capture_parenthesised.mpr hlist⟩, ?_⟩
      rw [Piece.foldr_collect_of_not_kept rfl]
  · intro character rest found hfound
    obtain ⟨-, behind, hbehind⟩ := capture_parenthesised.mp hfound
    rw [(List.cons.inj hbehind).1]
    decide

/-- The list of a constructor at the start of a text is captured. -/
theorem capture_constructor :
    Pattern.capture (Pattern.word "constructor" ++ (blanks ++ parenthesised)) text = some list ↔
      StartsWithConstructor text list := by
  rw [Pattern.capture_word_append]
  constructor
  · rintro ⟨rest, rfl, hcaptured⟩
    obtain ⟨gap, left, rfl, hgap, hlist⟩ := capture_blanks_parenthesised.mp hcaptured
    exact ⟨gap, left, rfl, hgap, hlist⟩
  · rintro ⟨gap, left, rfl, hgap, hlist⟩
    exact ⟨gap ++ left, rfl, capture_blanks_parenthesised.mpr ⟨gap, left, rfl, hgap, hlist⟩⟩

/-! ### The last constructor of a line -/

/-- Of the constructors that stand with a list on the first line of `skipped ++ rest`, the last one
starts `rest`, and its list is `list`. -/
structure LastConstructor (skipped rest list : Text) : Prop where
  onLine : '\n' ∉ skipped
  starts : StartsWithConstructor rest list
  last : ∀ further later other, rest = further ++ later → further ≠ [] → '\n' ∉ further →
    ¬ StartsWithConstructor later other

/-- The list of the last constructor on the first line of a text. -/
def lastList : Text → Option Text :=
  Piece.many ⟨.except '\n', .most, false⟩
    (Pattern.capture (Pattern.word "constructor" ++ (blanks ++ parenthesised)))

/-- The pieces that find the constructor prefer the last one. -/
theorem lastList_eq_some_iff :
    lastList line = some list ↔
      ∃ skipped rest, line = skipped ++ rest ∧ LastConstructor skipped rest list := by
  rw [lastList]
  constructor
  · intro hmany
    obtain ⟨skipped, rest, found, hstops, rfl, hlast⟩ := Piece.many_eq_some_iff.mp hmany
    rw [Piece.foldr_collect_of_not_kept rfl]
    refine ⟨skipped, rest, hstops.text_eq,
      (CharClass.holds_except_iff '\n' skipped).mp hstops.holds,
      capture_constructor.mp hstops.following_eq, ?_⟩
    intro further later other hsplit hfurther honLine hother
    have hnone := hlast further later hsplit hfurther
      ((CharClass.holds_except_iff '\n' further).mpr honLine)
    rw [capture_constructor.mpr hother] at hnone
    exact absurd hnone (by simp)
  · rintro ⟨skipped, rest, rfl, hlast⟩
    have hstops : Piece.Stops ⟨.except '\n', .most, false⟩
        (Pattern.capture (Pattern.word "constructor" ++ (blanks ++ parenthesised)))
        (skipped ++ rest) skipped rest list :=
      ⟨rfl, (CharClass.holds_except_iff '\n' skipped).mpr hlast.onLine,
        capture_constructor.mpr hlast.starts⟩
    have hmany := Piece.many_eq_some_of_stops hstops ?_
    · rw [Piece.foldr_collect_of_not_kept rfl] at hmany
      exact hmany
    · intro further later hsplit hfurther hread
      rw [Option.eq_none_iff_forall_ne_some]
      intro other hother
      exact hlast.last further later other hsplit hfurther
        ((CharClass.holds_except_iff '\n' further).mp hread) (capture_constructor.mp hother)

/-- They miss no constructor of the line. -/
theorem lastList_eq_none_iff :
    lastList line = none ↔
      ∀ skipped rest list, line = skipped ++ rest → '\n' ∉ skipped →
        ¬ StartsWithConstructor rest list := by
  rw [lastList, Piece.many_eq_none_iff]
  constructor
  · intro hnone skipped rest list hsplit honLine hstarts
    exact hnone skipped rest list ⟨hsplit, (CharClass.holds_except_iff '\n' skipped).mpr honLine,
      capture_constructor.mpr hstarts⟩
  · intro hnone skipped rest list hstops
    exact hnone skipped rest list hstops.text_eq
      ((CharClass.holds_except_iff '\n' skipped).mp hstops.holds)
      (capture_constructor.mp hstops.following_eq)

/-! ### Text behind the last constructor -/

/-- A constructor with its list. -/
def constructorText (gap list : Text) : Text :=
  "constructor".toList ++ (gap ++ '(' :: (list ++ [')']))

theorem constructorText_append (gap list behind : Text) :
    constructorText gap list ++ behind =
      "constructor".toList ++ (gap ++ '(' :: (list ++ ')' :: behind)) := by
  unfold constructorText
  simp only [List.append_assoc, List.cons_append, List.nil_append]

/-- The closing parenthesis is the last character. -/
theorem constructorText_eq_concat (gap list : Text) :
    constructorText gap list = "constructor".toList ++ (gap ++ '(' :: list) ++ [')'] := by
  unfold constructorText
  simp only [List.append_assoc, List.cons_append]

theorem startsWithConstructor_iff :
    StartsWithConstructor text list ↔
      ∃ gap behind, text = constructorText gap list ++ behind ∧ OnlyBlanks gap ∧ ')' ∉ list := by
  constructor
  · rintro ⟨gap, rest, rfl, hgap, hclosed, behind, rfl⟩
    exact ⟨gap, behind, (constructorText_append gap list behind).symm, hgap, hclosed⟩
  · rintro ⟨gap, behind, rfl, hgap, hclosed⟩
    exact ⟨gap, _, constructorText_append gap list behind, hgap, hclosed, behind, rfl⟩

/-- A list is closed by the first closing parenthesis, so a constructor with one in front of some
text does not need that text. -/
theorem StartsWithConstructor.of_append {front behind : Text}
    (hstarts : StartsWithConstructor (front ++ behind) list) (hclosing : ')' ∈ front) :
    StartsWithConstructor front list := by
  obtain ⟨gap, rest, hsplit, hgap, hclosed⟩ := startsWithConstructor_iff.mp hstarts
  rcases List.append_eq_append_iff.mp hsplit with ⟨missing, hfront, -⟩ | ⟨others, hfront, -⟩
  · rcases List.eq_nil_or_concat missing with hnil | ⟨inside, last, hmissing⟩
    · rw [hnil, List.append_nil] at hfront
      rw [← hfront]
      exact startsWithConstructor_iff.mpr ⟨gap, [], by simp, hgap, hclosed⟩
    · -- The front would be a part of what stands before the closing parenthesis.
      have hparts : "constructor".toList ++ (gap ++ '(' :: list) ++ [')'] =
          front ++ inside ++ [last] := by
        rw [List.concat_eq_append] at hmissing
        rw [List.append_assoc front, ← hmissing, ← hfront, constructorText_eq_concat]
      have hbefore := (List.append_inj' hparts rfl).1
      have hmem : ')' ∈ "constructor".toList ++ (gap ++ '(' :: list) := by
        rw [hbefore]
        exact List.mem_append_left inside hclosing
      rcases List.mem_append.mp hmem with hkeyword | hmem
      · exact absurd hkeyword (by decide)
      · rcases List.mem_append.mp hmem with hblank | hmem
        · exact absurd hblank (hgap.not_mem (by decide))
        · rcases List.mem_cons.mp hmem with hopening | hmem
          · exact absurd hopening (by decide)
          · exact absurd hmem hclosed
  · exact startsWithConstructor_iff.mpr ⟨gap, others, hfront, hgap, hclosed⟩

/-- A constructor that starts within the last one has its list closed there, so it would come
later, whatever is put behind. -/
theorem LastConstructor.not_starts_inside {skipped gap rest : Text}
    (hlast : LastConstructor skipped (constructorText gap list ++ rest) list)
    {further part : Text} (hparts : constructorText gap list = further ++ part)
    (hfurther : further ≠ []) (hpart : part ≠ []) (honLine : '\n' ∉ further) (behind other : Text) :
    ¬ StartsWithConstructor (part ++ behind) other := by
  intro hother
  have hclosing : ')' ∈ part := by
    obtain ⟨inside, last, rfl⟩ := (List.eq_nil_or_concat part).resolve_left hpart
    have hends : "constructor".toList ++ (gap ++ '(' :: list) ++ [')'] =
        further ++ inside ++ [last] := by
      rw [← constructorText_eq_concat, hparts, List.concat_eq_append, List.append_assoc]
    have hsame := (List.append_inj' hends rfl).2
    rw [List.cons.injEq] at hsame
    rw [← hsame.1]
    simp
  have hbefore := (hother.of_append hclosing).append rest
  refine hlast.last further (part ++ rest) other ?_ hfurther honLine hbefore
  rw [hparts, List.append_assoc]

/-- The last constructor of a line stays the last one when none starts behind it, or when a line
feed in it hides what starts behind it. -/
theorem LastConstructor.append {skipped gap rest behind : Text}
    (hlast : LastConstructor skipped (constructorText gap list ++ rest) list)
    (hbehind : '\n' ∈ constructorText gap list ∨ lastList (rest ++ behind) = none) :
    LastConstructor skipped (constructorText gap list ++ (rest ++ behind)) list where
  onLine := hlast.onLine
  starts := by
    rw [← List.append_assoc]
    exact hlast.starts.append behind
  last := by
    intro further later other hsplit hfurther honLine hother
    rcases List.append_eq_append_iff.mp hsplit with ⟨deeper, rfl, hdeeper⟩ | ⟨part, hparts, rfl⟩
    · rcases hbehind with hbreak | hnone
      · exact honLine (List.mem_append_left deeper hbreak)
      · exact lastList_eq_none_iff.mp hnone deeper later other hdeeper
          (fun hmem ↦ honLine (List.mem_append_right _ hmem)) hother
    · by_cases hempty : part = []
      · rw [hempty, List.append_nil] at hparts
        rw [hempty, List.nil_append] at hother
        rcases hbehind with hbreak | hnone
        · rw [hparts] at hbreak
          exact honLine hbreak
        · exact lastList_eq_none_iff.mp hnone [] (rest ++ behind) other rfl (by simp) hother
      · exact hlast.not_starts_inside hparts hfurther hempty honLine (rest ++ behind) other hother

/-- Behind the last constructor of a line another one takes its place, where the line goes on that
far, and nothing else does. -/
theorem exists_lastList_append (hline : lastList line = some list) :
    ∃ skipped gap rest, line = skipped ++ (constructorText gap list ++ rest) ∧ OnlyBlanks gap ∧
      ')' ∉ list ∧ ∀ behind, lastList (line ++ behind) =
        if '\n' ∈ constructorText gap list then some list
        else (lastList (rest ++ behind)).or (some list) := by
  obtain ⟨skipped, stop, rfl, hlast⟩ := lastList_eq_some_iff.mp hline
  obtain ⟨gap, rest, rfl, hgap, hclosed⟩ := startsWithConstructor_iff.mp hlast.starts
  refine ⟨skipped, gap, rest, rfl, hgap, hclosed, ?_⟩
  intro behind
  have hline : skipped ++ (constructorText gap list ++ rest) ++ behind =
      skipped ++ (constructorText gap list ++ (rest ++ behind)) := by
    simp only [List.append_assoc]
  rw [hline]
  by_cases hbreak : '\n' ∈ constructorText gap list
  · rw [if_pos hbreak]
    exact lastList_eq_some_iff.mpr ⟨skipped, _, rfl, hlast.append (Or.inl hbreak)⟩
  · rw [if_neg hbreak]
    cases hlater : lastList (rest ++ behind) with
    | none =>
      rw [Option.none_or]
      exact lastList_eq_some_iff.mpr ⟨skipped, _, rfl, hlast.append (Or.inr hlater)⟩
    | some other =>
      rw [Option.some_or]
      obtain ⟨between, stop, hsplit, hother⟩ := lastList_eq_some_iff.mp hlater
      refine lastList_eq_some_iff.mpr ⟨skipped ++ (constructorText gap list ++ between), stop, ?_,
        ?_, hother.starts, hother.last⟩
      · rw [hsplit]
        simp only [List.append_assoc]
      · intro hmem
        rcases List.mem_append.mp hmem with hmem | hmem
        · exact hlast.onLine hmem
        · rcases List.mem_append.mp hmem with hmem | hmem
          · exact hbreak hmem
          · exact hother.onLine hmem

/-! ### Classes -/

/-- What a class has captured is the list of its last constructor. -/
theorem capture_classPattern :
    Pattern.capture classPattern text = some list ↔
      ∃ blank line, text = "class".toList ++ blank :: line ∧ isBlank blank ∧
        lastList line = some list := by
  have hpattern : classPattern =
      Pattern.word "class" ++ (⟨.blank, .once, false⟩ :: ⟨.except '\n', .most, false⟩ ::
        (Pattern.word "constructor" ++ (blanks ++ parenthesised))) := by
    simp only [classPattern, List.append_assoc, List.cons_append, List.nil_append]
  have honce (body : Text) : Pattern.capture (⟨.blank, .once, false⟩ ::
      ⟨.except '\n', .most, false⟩ :: (Pattern.word "constructor" ++ (blanks ++ parenthesised)))
        body = some list ↔ ∃ blank line, body = blank :: line ∧ isBlank blank ∧
          lastList line = some list :=
    Piece.one_eq_some_iff rfl
  rw [hpattern, Pattern.capture_word_append]
  constructor
  · rintro ⟨body, rfl, hcaptured⟩
    obtain ⟨blank, line, rfl, hblank, hline⟩ := (honce body).mp hcaptured
    exact ⟨blank, line, rfl, hblank, hline⟩
  · rintro ⟨blank, line, rfl, hblank, hline⟩
    exact ⟨blank :: line, rfl, (honce _).mpr ⟨blank, line, rfl, hblank, hline⟩⟩

/-- The text put behind a class changes its list only where another constructor with a list starts
behind the one whose list was captured, on the same line. -/
theorem capture_class_append (hcapture : capture .classConstructor text = some list) :
    ∃ front gap raw rest, text = front ++ (constructorText gap raw ++ rest) ∧ OnlyBlanks gap ∧
      ')' ∉ raw ∧ list = trim raw ∧
        ∀ behind, capture .classConstructor (text ++ behind) =
          if '\n' ∈ constructorText gap raw then some list
          else ((lastList (rest ++ behind)).map trim).or (some list) := by
  rw [capture_eq, Option.map_eq_some_iff] at hcapture
  obtain ⟨raw, hraw, rfl⟩ := hcapture
  obtain ⟨blank, line, rfl, hblank, hline⟩ := capture_classPattern.mp hraw
  obtain ⟨skipped, gap, rest, rfl, hgap, hclosed, happend⟩ := exists_lastList_append hline
  refine ⟨"class".toList ++ blank :: skipped, gap, raw, rest, by simp, hgap, hclosed, rfl, ?_⟩
  intro behind
  have hlonger : ∀ other,
      lastList (skipped ++ (constructorText gap raw ++ rest) ++ behind) = some other →
        capture .classConstructor
          ("class".toList ++ blank :: (skipped ++ (constructorText gap raw ++ rest)) ++ behind) =
            some (trim other) := by
    intro other hother
    rw [capture_eq, pattern, capture_classPattern.mpr ⟨blank, _, by simp, hblank, hother⟩,
      Option.map_some]
  have hline := happend behind
  by_cases hbreak : '\n' ∈ constructorText gap raw
  · rw [if_pos hbreak] at hline ⊢
    exact hlonger raw hline
  · rw [if_neg hbreak] at hline ⊢
    cases hlater : lastList (rest ++ behind) with
    | none =>
      rw [hlater, Option.none_or] at hline
      exact hlonger raw hline
    | some other =>
      rw [hlater, Option.some_or] at hline
      exact hlonger other hline

/-- When the text put behind a class leaves its list as it is: the last constructor with a list that
starts behind the one whose list was captured, if a line feed in that one does not hide it, has the
same list. -/
theorem capture_class_append_iff (hcapture : capture .classConstructor text = some list) :
    ∃ front gap raw rest, text = front ++ (constructorText gap raw ++ rest) ∧ OnlyBlanks gap ∧
      ')' ∉ raw ∧ list = trim raw ∧
        ∀ behind, capture .classConstructor (text ++ behind) = some list ↔
          '\n' ∈ constructorText gap raw ∨
            ∀ skipped later other, rest ++ behind = skipped ++ later →
              LastConstructor skipped later other → trim other = list := by
  obtain ⟨front, gap, raw, rest, htext, hgap, hclosed, hlist, happend⟩ :=
    capture_class_append hcapture
  refine ⟨front, gap, raw, rest, htext, hgap, hclosed, hlist, ?_⟩
  intro behind
  rw [happend behind]
  by_cases hbreak : '\n' ∈ constructorText gap raw
  · rw [if_pos hbreak]
    exact ⟨fun _ ↦ Or.inl hbreak, fun _ ↦ rfl⟩
  · rw [if_neg hbreak]
    constructor
    · intro hsame
      right
      intro skipped later other hsplit hlast
      rw [lastList_eq_some_iff.mpr ⟨skipped, later, hsplit, hlast⟩, Option.map_some,
        Option.some_or, Option.some.injEq] at hsame
      exact hsame
    · intro hsame
      have hlater := hsame.resolve_left hbreak
      cases hother : lastList (rest ++ behind) with
      | none => rfl
      | some other =>
        obtain ⟨skipped, later, hsplit, hlast⟩ := lastList_eq_some_iff.mp hother
        rw [Option.map_some, Option.some_or, hlater skipped later other hsplit hlast]

/-- The call of a constructor behind a class replaces the list that the class has by itself: the
call starts behind the declaration and has another list. -/
theorem capture_class_append_iff_of_call :
    capture .classConstructor "class A { constructor(a) {} }".toList = some ['a'] ∧
    capture .classConstructor
      ("class A { constructor(a) {} }".toList ++ " new b.constructor(x)".toList) = some ['x'] ∧
    ∃ front gap raw rest,
      "class A { constructor(a) {} }".toList = front ++ (constructorText gap raw ++ rest) ∧
        ∃ skipped later other, rest ++ " new b.constructor(x)".toList = skipped ++ later ∧
          LastConstructor skipped later other ∧ trim other ≠ ['a'] := by
  have halone : capture .classConstructor "class A { constructor(a) {} }".toList = some ['a'] := by
    decide +kernel
  have hcalled : capture .classConstructor
      ("class A { constructor(a) {} }".toList ++ " new b.constructor(x)".toList) = some ['x'] := by
    decide +kernel
  refine ⟨halone, hcalled, ?_⟩
  obtain ⟨front, gap, raw, rest, htext, -, -, -, hcondition⟩ := capture_class_append_iff halone
  refine ⟨front, gap, raw, rest, htext, ?_⟩
  have hchanged := mt (hcondition " new b.constructor(x)".toList).mpr (by rw [hcalled]; decide)
  rw [not_or] at hchanged
  simpa using hchanged.2

/-! ### Written classes -/

/-- The declaration of a class with one constructor picked out: what stands before it behind the
keyword and a blank, its blanks and its list, and what follows. -/
def classText (blank : Char) (skipped gap list behind : Text) : Text :=
  "class".toList ++ blank :: (skipped ++ (constructorText gap list ++ behind))

theorem trimStart_classText (blank : Char) (skipped gap list behind : Text) :
    trimStart (classText blank skipped gap list behind) =
      classText blank skipped gap list behind := by
  have hkeyword : "class".toList = ['c', 'l', 'a', 's', 's'] := rfl
  unfold classText
  simp only [hkeyword, List.cons_append]
  exact trimStart_cons (by decide)

/-- The list of a constructor is captured when no constructor with a list starts behind its opening
parenthesis. -/
theorem capture_classText {blank : Char} {skipped gap list behind : Text}
    (hblank : isBlank blank) (honLine : '\n' ∉ skipped) (hgap : OnlyBlanks gap)
    (hclosed : ')' ∉ list)
    (hlast : ∀ further later other, list ++ ')' :: behind = further ++ later →
      ¬ StartsWithConstructor later other) :
    capture .classConstructor (classText blank skipped gap list behind) = some (trim list) := by
  have hstarts : StartsWithConstructor (constructorText gap list ++ behind) list :=
    startsWithConstructor_iff.mpr ⟨gap, behind, rfl, hgap, hclosed⟩
  have hline : lastList (skipped ++ (constructorText gap list ++ behind)) = some list := by
    refine lastList_eq_some_iff.mpr ⟨skipped, _, rfl, honLine, hstarts, ?_⟩
    intro further later other hsplit hfurther _ hother
    have hopened : "constructor".toList ++ (gap ++ '(' :: (list ++ ')' :: behind)) =
        further ++ later := by
      rw [← hsplit, constructorText_append]
    obtain ⟨deeper, hdeeper⟩ := exists_append_of_later_constructor hgap hopened hfurther hother
    exact hlast deeper later other hdeeper hother
  have hcapture : Pattern.capture classPattern (classText blank skipped gap list behind) =
      some list :=
    capture_classPattern.mpr ⟨blank, _, rfl, hblank, hline⟩
  rw [capture_eq, pattern, hcapture, Option.map_some]

end DeclaredParams.Shape
