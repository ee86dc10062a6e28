import DeclaredParams.Parameter.List
import DeclaredParams.Proofs.Text.Comment

/-!
# Tokens and the lists made of them

A token is read by the first of three rules. `classify_of_restMarker`, `classify_of_equals` and
`classify_of_neither` say for each rule which tokens it reads and what it makes of them,
`classify_cases` that there are no others, and `classify_eq_of_trim_eq` that blanks around a token
make no difference. `tokenParameters` reads a list without comments. A comma divides it into
two lists read one after the other (`tokenParameters_append_comma`), so what is said of lists is
proved along their commas (`comma_induction`). Blanks around a list do not change it, with comments
or without (`tokenParameters_append_left`, `tokenParameters_append_right`,
`parseParameterList_trim`), and a list that goes on loses no parameter
(`length_tokenParameters_le`).
-/

set_option autoImplicit false
set_option relaxedAutoImplicit false

namespace DeclaredParams

open Text

variable {text token : Text}

/-! ### One token -/

namespace Parameter

/-- Only the text between the blanks around a token is read. -/
theorem classify_eq_of_trim_eq {other : Text} (htrim : trim text = trim other) :
    classify text = classify other := by
  rw [classify, classify, Classification.ofText?, Classification.ofText?, htrim]

/-- A token that starts with the marker is a rest parameter, named by what follows the marker. -/
theorem classify_of_restMarker {name : Text} (htrim : trim text = restMarker ++ name) :
    classify text = some (.rest name) := by
  have hmarker : restMarker.isPrefixOf (restMarker ++ name) = true :=
    List.isPrefixOf_iff_prefix.mpr (List.prefix_append _ _)
  have hname : (restMarker ++ name).drop restMarker.length = name := List.drop_left
  have hne : (restMarker ++ name).isEmpty = false := rfl
  rw [classify, Classification.ofText?, htrim]
  simp [ParameterRule.all, ParameterRule.apply, hmarker, hname, hne]

/-- A token with an equals sign and no marker has a default, and its name is what stands before the
first equals sign. -/
theorem classify_of_equals {name value : Text} (htrim : trim text = name ++ '=' :: value)
    (hname : '=' ∉ name) (hmarker : ¬ restMarker <+: trim text) :
    classify text = some (.defaulted (trim name)) := by
  have hmarked : restMarker.isPrefixOf (trim text) = false := by
    rw [← Bool.not_eq_true, List.isPrefixOf_iff_prefix]
    exact hmarker
  have hcut : cut? ['='] (trim text) = some (name, value) := by
    rw [htrim]
    exact cut?_single hname
  have hne : (trim text).isEmpty = false := by
    rw [htrim]
    simp
  rw [classify, Classification.ofText?]
  simp [ParameterRule.all, ParameterRule.apply, hmarked, hcut, hne]

/-- What stands in front of an equals sign starts with the rest marker, once it is trimmed, exactly
where the token does. -/
theorem restMarker_isPrefix_trim_iff {name value : Text} :
    restMarker <+: trim (name ++ '=' :: value) ↔ restMarker <+: trim name := by
  obtain ⟨gap, hgap, htrim⟩ :=
    exists_trim_append_cons (show isBlank '=' = false by decide) name value
  rw [htrim]
  constructor
  · apply isPrefix_of_isPrefix_append
    intro character hhead hmem
    have hdot : character = '.' := by simpa [restMarker] using hmem
    rw [hdot] at hhead
    cases gap with
    | nil => cases hhead
    | cons blank others =>
      have hblank := hgap blank List.mem_cons_self
      rw [Option.some.inj hhead] at hblank
      exact absurd hblank (by decide)
  · exact fun hmarker ↦ hmarker.trans (List.prefix_append _ _)

/-- So the text in front of the first equals sign, trimmed, is the name unless it starts with the
marker. -/
theorem classify_append_equals {name : Text} (value : Text) (hname : '=' ∉ name)
    (hmarker : ¬ restMarker <+: trim name) :
    classify (name ++ '=' :: value) = some (.defaulted (trim name)) := by
  obtain ⟨gap, hgap, htrim⟩ :=
    exists_trim_append_cons (show isBlank '=' = false by decide) name value
  have hequals : '=' ∉ trim name ++ gap := by
    rw [List.mem_append, not_or]
    exact ⟨fun hmem ↦ hname (trim_subset name hmem), hgap.not_mem (by decide)⟩
  have hread := classify_of_equals (htrim.trans (List.append_assoc _ _ _).symm) hequals
    (fun hstarts ↦ hmarker (restMarker_isPrefix_trim_iff.mp hstarts))
  rw [hread, trim_append_right hgap, trim_of_clean (startsClean_trim name) (endsClean_trim name)]

/-- A token with neither is a name. -/
theorem classify_of_neither (hne : trim text ≠ []) (hmarker : ¬ restMarker <+: trim text)
    (hequals : '=' ∉ trim text) : classify text = some (.plain (trim text)) := by
  have hmarked : restMarker.isPrefixOf (trim text) = false := by
    rw [← Bool.not_eq_true, List.isPrefixOf_iff_prefix]
    exact hmarker
  have hcut : cut? ['='] (trim text) = none := by
    rw [cut?_eq_none_iff]
    exact fun hoccurs ↦ hequals (List.IsInfix.subset hoccurs (by simp))
  have hempty : (trim text).isEmpty = false := by
    simpa using hne
  rw [classify, Classification.ofText?]
  simp [ParameterRule.all, ParameterRule.apply, hmarked, hcut, hempty]

/-- Every text between two commas is blank or a token of one of the three kinds. -/
theorem classify_cases (text : Text) :
    (OnlyBlanks text ∧ classify text = none) ∨
    (∃ name, trim text = restMarker ++ name ∧ classify text = some (.rest name)) ∨
    (∃ name value, trim text = name ++ '=' :: value ∧ '=' ∉ name ∧ ¬ restMarker <+: trim text ∧
      classify text = some (.defaulted (trim name))) ∨
    trim text ≠ [] ∧ '=' ∉ trim text ∧ ¬ restMarker <+: trim text ∧
      classify text = some (.plain (trim text)) := by
  by_cases hnil : trim text = []
  · refine Or.inl ⟨trim_eq_nil_iff.mp hnil, ?_⟩
    rw [classify, Classification.ofText?, hnil]
    rfl
  right
  by_cases hmarker : restMarker <+: trim text
  · obtain ⟨name, hname⟩ := hmarker
    exact Or.inl ⟨name, hname.symm, classify_of_restMarker hname.symm⟩
  right
  by_cases hequals : '=' ∈ trim text
  · obtain ⟨name, value, hsplit, hname⟩ := List.eq_append_cons_of_mem hequals
    exact Or.inl ⟨name, value, hsplit, hname, hmarker, classify_of_equals hsplit hname hmarker⟩
  · exact Or.inr ⟨hnil, hequals, hmarker, classify_of_neither hnil hmarker hequals⟩

/-- Blanks alone declare nothing, and every other token declares a parameter. -/
theorem classify_eq_none_iff : classify text = none ↔ OnlyBlanks text := by
  rcases classify_cases text with ⟨hblanks, hnone⟩ | ⟨name, hsplit, hrest⟩ |
    ⟨name, value, hsplit, -, -, hdefaulted⟩ | ⟨hne, -, -, hplain⟩
  · exact iff_of_true hnone hblanks
  · rw [hrest, ← trim_eq_nil_iff, hsplit]
    simp [restMarker]
  · rw [hdefaulted, ← trim_eq_nil_iff, hsplit]
    simp
  · rw [hplain, ← trim_eq_nil_iff]
    exact iff_of_false (Option.some_ne_none _) hne

end Parameter

/-! ### A list without comments -/

/-- A statement holds of every text when it holds of those without a comma and goes over to a text
from what stands behind its first comma. -/
@[elab_as_elim]
theorem comma_induction {motive : Text → Prop}
    (single : ∀ token, ',' ∉ token → motive token)
    (several : ∀ first others, ',' ∉ first → motive others → motive (first ++ ',' :: others))
    (text : Text) : motive text := by
  induction hlength : text.length using Nat.strongRecOn generalizing text with
  | ind length ih =>
    by_cases hmem : ',' ∈ text
    · obtain ⟨first, others, rfl, hfirst⟩ := List.eq_append_cons_of_mem hmem
      have hshorter : others.length < length := by
        rw [← hlength, List.length_append, List.length_cons]
        omega
      exact several first others hfirst (ih others.length hshorter others rfl)
    · exact single text hmem

/-- The parameters of the tokens between the commas of a text. -/
def tokenParameters (text : Text) : List Parameter :=
  (text.splitOn ',').filterMap Parameter.classify

/-- A list is read after its comments are removed. -/
theorem parseParameterList_eq_tokenParameters (raw : Text) :
    parseParameterList raw = tokenParameters (stripComments raw) :=
  parseParameterList_eq raw

/-- What stands before a comma and what stands behind it are read on their own. -/
theorem tokenParameters_append_comma (front behind : Text) :
    tokenParameters (front ++ ',' :: behind) = tokenParameters front ++ tokenParameters behind := by
  rw [tokenParameters, List.splitOn_append_cons_self, List.filterMap_append]
  rfl

/-- A text without commas is one token. -/
theorem tokenParameters_of_not_mem (htext : ',' ∉ text) :
    tokenParameters text = (Parameter.classify text).toList := by
  rw [tokenParameters, List.splitOn_eq_singleton htext, List.filterMap_cons, List.filterMap_nil]
  cases Parameter.classify text <;> rfl

/-- Blanks in front of a list belong to its first token. -/
theorem tokenParameters_append_left {lead : Text} (hlead : OnlyBlanks lead) :
    tokenParameters (lead ++ text) = tokenParameters text := by
  have hcomma : ',' ∉ lead := hlead.not_mem (by decide)
  have htoken (token : Text) (htoken : ',' ∉ token) :
      tokenParameters (lead ++ token) = tokenParameters token := by
    rw [tokenParameters_of_not_mem htoken, tokenParameters_of_not_mem (by simp [hcomma, htoken]),
      Parameter.classify_eq_of_trim_eq (trim_append_left hlead)]
  by_cases hmem : ',' ∈ text
  · obtain ⟨first, others, rfl, hfirst⟩ := List.eq_append_cons_of_mem hmem
    rw [← List.append_assoc, tokenParameters_append_comma, tokenParameters_append_comma,
      htoken first hfirst]
  · exact htoken text hmem

/-- Blanks behind a list belong to its last token. -/
theorem tokenParameters_append_right {trail : Text} (htrail : OnlyBlanks trail) :
    tokenParameters (text ++ trail) = tokenParameters text := by
  have hcomma : ',' ∉ trail := htrail.not_mem (by decide)
  induction text using comma_induction with
  | single token htoken =>
    rw [tokenParameters_of_not_mem htoken, tokenParameters_of_not_mem (by simp [hcomma, htoken]),
      Parameter.classify_eq_of_trim_eq (trim_append_right htrail)]
  | several first others hfirst ih =>
    rw [List.append_assoc, List.cons_append, tokenParameters_append_comma,
      tokenParameters_append_comma, ih]

/-- A list declares nothing exactly when it is made of blanks and commas. -/
theorem tokenParameters_eq_nil_iff :
    tokenParameters text = [] ↔ ∀ character ∈ text, isBlank character ∨ character = ',' := by
  have htoken (token : Text) (hcomma : ',' ∉ token) : tokenParameters token = [] ↔
      ∀ character ∈ token, isBlank character ∨ character = ',' := by
    rw [tokenParameters_of_not_mem hcomma, Option.toList_eq_nil_iff,
      Parameter.classify_eq_none_iff]
    refine forall₂_congr fun character hmem ↦ ?_
    have hcharacter : character ≠ ',' := fun hsame ↦ hcomma (hsame ▸ hmem)
    simp [hcharacter]
  induction text using comma_induction with
  | single token hcomma => exact htoken token hcomma
  | several first others hfirst ih =>
    rw [tokenParameters_append_comma, List.append_eq_nil_iff, List.forall_mem_append,
      List.forall_mem_cons]
    simpa using and_congr (htoken first hfirst) ih

/-- A list that goes on declares no fewer parameters. -/
theorem length_tokenParameters_le (text behind : Text) :
    (tokenParameters text).length ≤ (tokenParameters (text ++ behind)).length := by
  induction text using comma_induction with
  | single token htoken =>
    by_cases hnil : tokenParameters token = []
    · rw [hnil]
      exact Nat.zero_le _
    · have hlonger : tokenParameters (token ++ behind) ≠ [] := by
        intro hlonger
        rw [tokenParameters_eq_nil_iff] at hnil hlonger
        exact hnil (List.forall_mem_append.mp hlonger).1
      have hsome := List.length_pos_iff.mpr hlonger
      rw [tokenParameters_of_not_mem htoken]
      exact Nat.le_trans Option.length_toList_le hsome
  | several first others hfirst ih =>
    rw [List.append_assoc, List.cons_append, tokenParameters_append_comma,
      tokenParameters_append_comma, List.length_append, List.length_append]
    exact Nat.add_le_add_left ih _

/-! ### Lists with a comma and a space between their tokens -/

section Intercalate

variable {tokens : List Text} {first second : Char}

/-- The tokens of such a list are read one by one. -/
theorem tokenParameters_intercalate (htokens : ∀ token ∈ tokens, ',' ∉ token) :
    tokenParameters ([',', ' '].intercalate tokens) = tokens.filterMap Parameter.classify := by
  induction tokens with
  | nil => rfl
  | cons token others ih =>
    rw [List.forall_mem_cons] at htokens
    have htoken : tokenParameters token = (Parameter.classify token).toList :=
      tokenParameters_of_not_mem htokens.1
    have hread : (token :: others).filterMap Parameter.classify =
        (Parameter.classify token).toList ++ others.filterMap Parameter.classify := by
      rw [List.filterMap_cons]
      cases Parameter.classify token <;> rfl
    cases others with
    | nil =>
      rw [List.intercalate_singleton, htoken, hread, List.filterMap_nil, List.append_nil]
    | cons next others =>
      have hspace : tokenParameters (' ' :: [',', ' '].intercalate (next :: others)) =
          tokenParameters ([',', ' '].intercalate (next :: others)) :=
        tokenParameters_append_left (show OnlyBlanks [' '] by decide)
      have hsplit : [',', ' '].intercalate (token :: next :: others) =
          token ++ ',' :: ' ' :: [',', ' '].intercalate (next :: others) := by
        simp [List.intercalate_cons_cons]
      rw [hsplit, tokenParameters_append_comma, htoken, hspace, ih htokens.2, hread]

/-- A character that is neither a comma nor a space stands in such a list only if it does in a
token. -/
theorem not_mem_intercalate (hfirst : first ∉ [',', ' '])
    (htokens : ∀ token ∈ tokens, first ∉ token) :
    first ∉ [',', ' '].intercalate tokens := by
  induction tokens with
  | nil => simp
  | cons token others ih =>
    rw [List.forall_mem_cons] at htokens
    cases others with
    | nil =>
      rw [List.intercalate_singleton]
      exact htokens.1
    | cons next others =>
      rw [List.intercalate_cons_cons, List.mem_append, List.mem_append, not_or, not_or]
      exact ⟨⟨htokens.1, hfirst⟩, ih htokens.2⟩

/-- Two characters that are neither commas nor spaces stand together in such a list only if they do
in a token. -/
theorem not_pair_isInfix_intercalate (hfirst : first ∉ [',', ' ']) (hsecond : second ∉ [',', ' '])
    (htokens : ∀ token ∈ tokens, ¬ [first, second] <:+: token) :
    ¬ [first, second] <:+: [',', ' '].intercalate tokens := by
  induction tokens with
  | nil => simp
  | cons token others ih =>
    rw [List.forall_mem_cons] at htokens
    cases others with
    | nil =>
      rw [List.intercalate_singleton]
      exact htokens.1
    | cons next others =>
      have hseparated : ¬ [first, second] <:+: token ++ [',', ' '] := by
        apply not_pair_isInfix_append htokens.1 (not_pair_isInfix_of_not_mem (Or.inl hfirst))
        right
        intro hhead
        exact hsecond (List.mem_of_head? hhead)
      rw [List.intercalate_cons_cons]
      apply not_pair_isInfix_append hseparated (ih htokens.2)
      have hspace : first ≠ ' ' := by
        rintro rfl
        simp at hfirst
      left
      simpa using hspace.symm

end Intercalate

/-! ### Blanks around a list -/

/-- The trimmed text of a list declares the same parameters. -/
theorem parseParameterList_trim (raw : Text) :
    parseParameterList (trim raw) = parseParameterList raw := by
  obtain ⟨lead, trail, hlead, htrail, hraw⟩ := exists_trim raw
  have hstripped : stripComments raw = lead ++ stripComments (trim raw) ++ trail := by
    rw [← stripComments_append_blanks hlead, ← stripComments_append_right htrail, ← hraw]
  rw [parseParameterList_eq_tokenParameters, parseParameterList_eq_tokenParameters, hstripped,
    tokenParameters_append_right htrail, tokenParameters_append_left hlead]

/-- A list without an opener is read as it stands. -/
theorem parseParameterList_of_no_comment {raw : Text} (hraw : ¬ commentOpener <:+: raw) :
    parseParameterList raw = tokenParameters raw := by
  rw [parseParameterList_eq_tokenParameters, stripComments_eq_self hraw]

end DeclaredParams
