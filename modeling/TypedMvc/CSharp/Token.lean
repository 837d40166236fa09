/-!
# Tokens of source text

A source text as characters, stretches of it, and the tokens that the text is cut into. Positions
count characters from zero and lines from one; only a line feed ends a line.
-/

namespace TypedMvc.CSharp

/-- A source text as a sequence of characters. -/
structure Source where
  /-- The characters of the text. -/
  chars : Array Char

/-- The source text of a string. -/
def Source.ofString (text : String) : Source := ⟨text.toList.toArray⟩

/-- A stretch of a source text. -/
structure Span where
  /-- The position of the first character. -/
  start : Nat
  /-- The position after the last character. -/
  stop : Nat
  /-- The line of the first character. -/
  line : Nat
  deriving Repr, DecidableEq, Inhabited

/-- The text of a stretch. -/
def Source.slice (source : Source) (span : Span) : String :=
  String.ofList (source.chars.extract span.start span.stop).toList

/-- Whether one stretch lies inside another. -/
def Span.within (inner outer : Span) : Bool :=
  outer.start ≤ inner.start && inner.stop ≤ outer.stop

/-- What sort of thing a token is. -/
inductive TokenKind where
  /-- An identifier or a keyword. -/
  | word
  /-- A number. -/
  | number
  /-- A character or string literal, interpolated ones included. -/
  | text
  /-- An operator, a bracket or a separator. -/
  | punctuation
  /-- A conditional directive: its text is the bare command. -/
  | directive
  /-- A literal that its line or the end of the text cuts off. -/
  | unterminated
  /-- A character that starts no token. -/
  | stray
  deriving Repr, DecidableEq, Inhabited

/-- A token of the source text. -/
structure Token where
  /-- The sort of token. -/
  kind : TokenKind
  /-- The text by which the grammar knows the token. -/
  text : String
  /-- Where the token or remark in front of it ends, as an empty stretch. -/
  before : Span
  /-- Where the token stands. -/
  span : Span
  /-- Where the token ends, as an empty stretch. -/
  behind : Span
  /-- Whether nothing stands between the token before and this one. -/
  glued : Bool
  deriving Repr, Inhabited

/-- A comment or a directive that the grammar passes over. -/
structure Remark where
  /-- Where the remark stands. -/
  span : Span
  deriving Repr, Inhabited

end TypedMvc.CSharp
