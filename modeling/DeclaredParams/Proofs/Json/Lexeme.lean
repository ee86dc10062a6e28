import DeclaredParams.Json.Layout

/-!
# JSON texts read back token by token

`readTokens` divides a JSON text into its tokens. It skips white space between them, and in a string
it undoes every escape that JSON knows: the short ones, which the writer uses where it can, a slash,
and a character by its number, which takes two numbers above U+FFFF. Numbers as values are no tokens
here. What was written is read back as it was, `readTokens_compact` and `readTokens_pretty`: a string
ends at its own quote and at no other (`readString_flatMap`), a token ends before the next one starts
(`readTokens_append`), and the layout between two tokens is white space (`onlySpaces_spaceBefore`,
`onlySpaces_spaceAfter`).
-/

set_option autoImplicit false
set_option relaxedAutoImplicit false

namespace DeclaredParams.Json

variable {text rest : Text} {character : Char} {token : Token}

/-! ### Escapes -/

/-- The value of a hexadecimal digit. -/
def hexValue? (digit : Char) : Option Nat :=
  if digit.isDigit then some (digit.toNat - '0'.toNat)
  else if 'a' ≤ digit && digit ≤ 'f' then some (digit.toNat - 'a'.toNat + 10)
  else if 'A' ≤ digit && digit ≤ 'F' then some (digit.toNat - 'A'.toNat + 10)
  else none

/-- The number that four hexadecimal digits write, and the text behind them. -/
def readUnit : Text → Option (Nat × Text)
  | first :: second :: third :: fourth :: rest =>
    match hexValue? first, hexValue? second, hexValue? third, hexValue? fourth with
    | some a, some b, some c, some d => some (0x1000 * a + 0x100 * b + 0x10 * c + d, rest)
    | _, _, _, _ => none
  | _ => none

/-- The character above U+FFFF whose upper half is known and whose lower half follows. -/
def readLowHalf (high : Nat) : Text → Option (Char × Text)
  | '\\' :: 'u' :: text =>
    match readUnit text with
    | some (low, rest) =>
      if 0xDC00 ≤ low && low < 0xE000 then
        some (Char.ofNat (0x10000 + 0x400 * (high - 0xD800) + (low - 0xDC00)), rest)
      else none
    | none => none
  | _ => none

/-- The character that is written by its number. -/
def readNumbered (text : Text) : Option (Char × Text) :=
  match readUnit text with
  | some (unit, rest) =>
    if unit < 0xD800 || 0xE000 ≤ unit then some (Char.ofNat unit, rest)
    else if unit < 0xDC00 then readLowHalf unit rest
    else none
  | none => none

/-- The character of an escape that starts behind its backslash, and the text behind the escape. -/
def readEscape : Text → Option (Char × Text)
  | '"' :: rest => some ('"', rest)
  | '\\' :: rest => some ('\\', rest)
  | '/' :: rest => some ('/', rest)
  | 'b' :: rest => some ('\x08', rest)
  | 't' :: rest => some ('\t', rest)
  | 'n' :: rest => some ('\n', rest)
  | 'f' :: rest => some ('\x0c', rest)
  | 'r' :: rest => some ('\r', rest)
  | 'u' :: text => readNumbered text
  | _ => none

theorem length_of_readUnit {unit : Nat} (hread : readUnit text = some (unit, rest)) :
    rest.length < text.length := by
  unfold readUnit at hread
  split at hread
  next first second third fourth behind =>
    split at hread
    next =>
      cases hread
      simp only [List.length_cons]
      omega
    next => cases hread
  next => cases hread

theorem length_of_readLowHalf {high : Nat} (hread : readLowHalf high text = some (character, rest)) :
    rest.length < text.length := by
  unfold readLowHalf at hread
  split at hread
  next behind =>
    split at hread
    next low later hunit =>
      have hshorter := length_of_readUnit hunit
      split at hread
      · simp only [Option.some.injEq, Prod.mk.injEq] at hread
        rw [← hread.2]
        simp only [List.length_cons]
        omega
      · cases hread
    next => cases hread
  next => cases hread

theorem length_of_readNumbered (hread : readNumbered text = some (character, rest)) :
    rest.length < text.length := by
  unfold readNumbered at hread
  split at hread
  next unit behind hunit =>
    have hshorter := length_of_readUnit hunit
    split at hread
    · simp only [Option.some.injEq, Prod.mk.injEq] at hread
      rwa [← hread.2]
    · split at hread
      · exact Nat.lt_trans (length_of_readLowHalf hread) hshorter
      · cases hread
  next => cases hread

/-- An escape takes at least one character. -/
theorem length_of_readEscape (hread : readEscape text = some (character, rest)) :
    rest.length < text.length := by
  unfold readEscape at hread
  split at hread
  case h_9 behind => exact Nat.lt_trans (length_of_readNumbered hread) (Nat.lt_succ_self _)
  case h_10 => cases hread
  all_goals
    cases hread
    exact Nat.lt_succ_self _

/-! ### Strings -/

/-- The characters of a string that starts behind its first quote, and the text behind its last. -/
def readString (text : Text) : Option (Text × Text) :=
  match text with
  | [] => none
  | '"' :: rest => some ([], rest)
  | '\\' :: escaped =>
    match _hread : readEscape escaped with
    | some (character, rest) =>
      (readString rest).map fun read ↦ (character :: read.1, read.2)
    | none => none
  | character :: rest =>
    if character.toNat < 0x20 then none
    else (readString rest).map fun read ↦ (character :: read.1, read.2)
termination_by text.length
decreasing_by
  · have hshorter := length_of_readEscape _hread
    simp only [List.length_cons]
    omega
  · exact Nat.lt_succ_self _

/-- The rest of a string is shorter than the string. -/
theorem length_of_readString {characters : Text}
    (hread : readString text = some (characters, rest)) : rest.length < text.length := by
  fun_induction readString text generalizing characters with
  | case1 => cases hread
  | case2 behind =>
    cases hread
    exact Nat.lt_succ_self _
  | case3 escaped character behind hescape ih =>
    obtain ⟨⟨later, last⟩, hlater, hparts⟩ := Option.map_eq_some_iff.mp hread
    cases hparts
    have hshorter := length_of_readEscape hescape
    have hlast : last.length < behind.length := ih hlater
    simp only [List.length_cons]
    omega
  | case4 => cases hread
  | case5 => cases hread
  | case6 character behind _ _ _ ih =>
    obtain ⟨⟨later, last⟩, hlater, hparts⟩ := Option.map_eq_some_iff.mp hread
    cases hparts
    have hlast : last.length < behind.length := ih hlater
    simp only [List.length_cons]
    omega

/-- A digit has the value from which it was made. -/
theorem hexValue?_digitChar {value : Nat} (hvalue : value < 16) :
    hexValue? (Nat.digitChar value) = some value := by
  have hall : ∀ value < 16, hexValue? (Nat.digitChar value) = some value := by decide
  exact hall value hvalue

/-- A character below U+0100 is read back from its number. -/
theorem readNumbered_digits (hsmall : character.toNat < 0x100) (rest : Text) :
    readNumbered ('0' :: '0' :: Nat.digitChar (character.toNat / 16) ::
      Nat.digitChar (character.toNat % 16) :: rest) = some (character, rest) := by
  have hzero : hexValue? '0' = some 0 := rfl
  have hhigh := hexValue?_digitChar (by omega : character.toNat / 16 < 16)
  have hlow := hexValue?_digitChar (by omega : character.toNat % 16 < 16)
  have hsum : 0x1000 * 0 + 0x100 * 0 + 0x10 * (character.toNat / 16) + character.toNat % 16 =
      character.toNat := by omega
  have hbelow : character.toNat < 0xD800 := by omega
  rw [readNumbered, readUnit]
  simp only [hzero, hhigh, hlow, hsum]
  simp [hbelow, Char.ofNat_toNat]

/-- A character is read back from its written form. -/
theorem readString_escapedCharacter (character : Char) (rest : Text) :
    readString (escapedCharacter character ++ rest) =
      (readString rest).map fun read ↦ (character :: read.1, read.2) := by
  unfold escapedCharacter
  split
  case h_8 hquote hbackslash _ _ _ _ _ =>
    split
    next hcontrol =>
      have hescape := readNumbered_digits (by omega : character.toNat < 0x100) rest
      simp only [List.cons_append, List.nil_append]
      rw [readString, readEscape]
      split
      next hread =>
        cases hescape.symm.trans hread
        rfl
      next hread => cases hescape.symm.trans hread
    next hcontrol =>
      simp only [List.cons_append, List.nil_append]
      rw [readString]
      · rw [if_neg hcontrol]
      · exact hquote
      · exact hbackslash
  all_goals
    simp only [List.cons_append, List.nil_append]
    rw [readString]
    rfl

/-- A string ends at the quote that was written behind its characters. -/
theorem readString_flatMap (characters rest : Text) :
    readString (characters.flatMap escapedCharacter ++ '"' :: rest) = some (characters, rest) := by
  induction characters with
  | nil => rw [List.flatMap_nil, List.nil_append, readString]
  | cons character others ih =>
    rw [List.flatMap_cons, List.append_assoc, readString_escapedCharacter, ih, Option.map_some]

/-! ### Tokens -/

/-- The token at the start of a text, and the text behind it. -/
def readToken : Text → Option (Token × Text)
  | '\x7b' :: rest => some (.opening .object, rest)
  | '\x7d' :: rest => some (.closing .object, rest)
  | '[' :: rest => some (.opening .array, rest)
  | ']' :: rest => some (.closing .array, rest)
  | ',' :: rest => some (.comma, rest)
  | ':' :: rest => some (.colon, rest)
  | 'n' :: 'u' :: 'l' :: 'l' :: rest => some (.null, rest)
  | 't' :: 'r' :: 'u' :: 'e' :: rest => some (.bool true, rest)
  | 'f' :: 'a' :: 'l' :: 's' :: 'e' :: rest => some (.bool false, rest)
  | '"' :: text => (readString text).map fun read ↦ (.string read.1, read.2)
  | _ => none

/-- A token takes at least one character. -/
theorem length_of_readToken (hread : readToken text = some (token, rest)) :
    rest.length < text.length := by
  unfold readToken at hread
  split at hread
  case h_10 behind =>
    obtain ⟨⟨characters, last⟩, hstring, hparts⟩ := Option.map_eq_some_iff.mp hread
    cases hparts
    exact Nat.lt_succ_of_lt (length_of_readString hstring)
  case h_11 => cases hread
  all_goals
    cases hread
    simp only [List.length_cons]
    omega

/-- A token that was written is read back, whatever stands behind it. -/
theorem readToken_text (token : Token) (rest : Text) :
    readToken (token.text ++ rest) = some (token, rest) := by
  cases token with
  | opening bracket => cases bracket <;> rfl
  | closing bracket => cases bracket <;> rfl
  | comma => rfl
  | colon => rfl
  | null => rfl
  | bool value => cases value <;> rfl
  | string characters =>
    have hstring := readString_flatMap characters rest
    rw [Token.text, List.cons_append, List.append_assoc, List.singleton_append, readToken, hstring,
      Option.map_some]

/-- The characters that may stand between tokens. -/
def isSpace (character : Char) : Bool :=
  character == ' ' || character == '\n' || character == '\t' || character == '\r'

/-- The text is made of white space alone. -/
def OnlySpaces (text : Text) : Prop :=
  ∀ character ∈ text, isSpace character

/-- The tokens of a text. -/
def readTokens (text : Text) : Option (List Token) :=
  match text with
  | [] => some []
  | character :: behind =>
    if isSpace character then readTokens behind
    else
      match _hread : readToken (character :: behind) with
      | some (token, rest) => (readTokens rest).map fun tokens ↦ token :: tokens
      | none => none
termination_by text.length
decreasing_by
  · exact Nat.lt_succ_self _
  · exact length_of_readToken _hread

/-- White space in front is skipped. -/
theorem readTokens_append_spaces {spaces : Text} (hspaces : OnlySpaces spaces) (text : Text) :
    readTokens (spaces ++ text) = readTokens text := by
  induction spaces with
  | nil => rfl
  | cons space others ih =>
    rw [OnlySpaces, List.forall_mem_cons] at hspaces
    rw [List.cons_append, readTokens, if_pos hspaces.1, ih hspaces.2]

/-- A token starts with a character that is no white space. -/
theorem exists_text_eq (token : Token) :
    ∃ first others, token.text = first :: others ∧ isSpace first = false := by
  cases token with
  | opening bracket => cases bracket <;> exact ⟨_, _, rfl, rfl⟩
  | closing bracket => cases bracket <;> exact ⟨_, _, rfl, rfl⟩
  | bool value => cases value <;> exact ⟨_, _, rfl, rfl⟩
  | _ => exact ⟨_, _, rfl, rfl⟩

/-- A token in front is read first. -/
theorem readTokens_append (token : Token) (text : Text) :
    readTokens (token.text ++ text) = (readTokens text).map fun tokens ↦ token :: tokens := by
  obtain ⟨first, others, htext, hspace⟩ := exists_text_eq token
  have hread := readToken_text token text
  rw [htext, List.cons_append] at hread ⊢
  rw [readTokens, if_neg (by simp [hspace])]
  split
  next hsome =>
    cases hread.symm.trans hsome
    rfl
  next hnone => cases hread.symm.trans hnone

/-! ### Layouts -/

/-- Tokens with nothing between them are read back. -/
theorem readTokens_compact (tokens : List Token) : readTokens (compact tokens) = some tokens := by
  induction tokens with
  | nil => rw [compact, List.flatMap_nil, readTokens]
  | cons token others ih =>
    rw [compact, List.flatMap_cons, readTokens_append, ← compact, ih, Option.map_some]

theorem onlySpaces_newline (depth : Nat) : OnlySpaces (newline depth) := by
  intro character hmem
  rcases List.mem_cons.mp hmem with rfl | hmem
  · rfl
  · rw [(List.mem_replicate.mp hmem).2]
    rfl

/-- The layout in front of a token is white space. -/
theorem onlySpaces_spaceBefore (cursor : Cursor) (token : Token) :
    OnlySpaces (cursor.spaceBefore token) := by
  unfold Cursor.spaceBefore
  split <;> split
  · exact fun _ hmem ↦ absurd hmem List.not_mem_nil
  · exact onlySpaces_newline _
  · exact onlySpaces_newline _
  · exact fun _ hmem ↦ absurd hmem List.not_mem_nil

/-- The layout behind a token is white space. -/
theorem onlySpaces_spaceAfter (cursor : Cursor) (token : Token) :
    OnlySpaces (cursor.spaceAfter token) := by
  unfold Cursor.spaceAfter
  split
  · exact onlySpaces_newline _
  · intro character hmem
    rw [List.mem_singleton.mp hmem]
    rfl
  · exact fun _ hmem ↦ absurd hmem List.not_mem_nil

/-- What is written already stands in front. -/
theorem flatten_prettyFrom (cursor : Cursor) (written : List Text) (tokens : List Token) :
    (prettyFrom cursor written tokens).flatten =
      written.reverse.flatten ++ (prettyFrom cursor [] tokens).flatten := by
  induction tokens generalizing cursor written with
  | nil => simp [prettyFrom]
  | cons token others ih =>
    rw [prettyFrom, prettyFrom, ih, ih (cursor.after token) [cursor.write token]]
    simp

/-- Tokens on indented lines are read back, from every position and with white space behind. -/
theorem readTokens_prettyFrom (cursor : Cursor) (tokens : List Token) {behind : Text}
    (hbehind : OnlySpaces behind) :
    readTokens ((prettyFrom cursor [] tokens).flatten ++ behind) = some tokens := by
  induction tokens generalizing cursor with
  | nil =>
    have hend := readTokens_append_spaces hbehind []
    rw [List.append_nil, readTokens] at hend
    exact hend
  | cons token others ih =>
    rw [prettyFrom, flatten_prettyFrom, Cursor.write]
    simp only [List.reverse_singleton, List.flatten_cons, List.flatten_nil, List.append_nil,
      List.append_assoc]
    rw [readTokens_append_spaces (onlySpaces_spaceBefore cursor token), readTokens_append,
      readTokens_append_spaces (onlySpaces_spaceAfter cursor token), ih, Option.map_some]

/-- Tokens on indented lines are read back, also with white space behind them. -/
theorem readTokens_pretty (tokens : List Token) {behind : Text} (hbehind : OnlySpaces behind) :
    readTokens (pretty tokens ++ behind) = some tokens :=
  readTokens_prettyFrom .start tokens hbehind

end DeclaredParams.Json
