import DeclaredParams.Json.Token

/-!
# Layouts of JSON texts

The same tokens are written in two ways. `compact` puts nothing between them. `pretty` gives each
member and each value a line of its own, indented by two blanks for every bracket around it, and
puts a blank after each colon; a nested value without content stays on one line.
-/

set_option autoImplicit false
set_option relaxedAutoImplicit false

namespace DeclaredParams.Json

/-- The tokens with nothing between them. -/
def compact (tokens : List Token) : Text :=
  tokens.flatMap Token.text

/-- A line break and the indentation of the line after it. -/
def newline (depth : Nat) : Text :=
  '\n' :: List.replicate (2 * depth) ' '

/-- The position between two tokens of an indented text. -/
structure Cursor where
  /-- The number of brackets that are open. -/
  depth : Nat
  /-- Whether the last token opened a bracket. -/
  justOpened : Bool
  deriving DecidableEq, Repr

namespace Cursor

/-- The position before the first token. -/
def start : Cursor := ⟨0, false⟩

/-- The position after one more token. -/
def after (cursor : Cursor) : Token → Cursor
  | .opening _ => ⟨cursor.depth + 1, true⟩
  | .closing _ => ⟨cursor.depth - 1, false⟩
  | _ => ⟨cursor.depth, false⟩

/-- The white space before a token. -/
def spaceBefore (cursor : Cursor) : Token → Text
  | .closing _ => if cursor.justOpened then [] else newline (cursor.depth - 1)
  | _ => if cursor.justOpened then newline cursor.depth else []

/-- The white space after a token. -/
def spaceAfter (cursor : Cursor) : Token → Text
  | .comma => newline cursor.depth
  | .colon => [' ']
  | _ => []

/-- A token with the white space around it. -/
def write (cursor : Cursor) (token : Token) : Text :=
  cursor.spaceBefore token ++ token.text ++ cursor.spaceAfter token

end Cursor

/-- The tokens with the white space around them, behind those already written in reverse
order. -/
def prettyFrom (cursor : Cursor) (written : List Text) : List Token → List Text
  | [] => written.reverse
  | token :: tokens => prettyFrom (cursor.after token) (cursor.write token :: written) tokens

/-- The tokens on indented lines. -/
def pretty (tokens : List Token) : Text :=
  (prettyFrom .start [] tokens).flatten

end DeclaredParams.Json
