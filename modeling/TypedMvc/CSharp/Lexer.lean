import TypedMvc.CSharp.Lexeme

/-!
# Cutting a source text into tokens

The lexer takes the first lexeme off the text until nothing is left. Each step takes at least one
character, so it ends; what it takes is the whole text in order.
-/

namespace TypedMvc.CSharp

/-- The tokens of a source text and the remarks between them, both in the order of the text. -/
structure Lexed where
  /-- The tokens. -/
  tokens : Array Token
  /-- The comments and passed-over directives. -/
  remarks : Array Remark
  deriving Inhabited

/-- Where the lexer stands. -/
structure Cursor where
  /-- The position of the next character. -/
  position : Nat
  /-- The line of the next character. -/
  line : Nat
  /-- Where the last token or remark ends, as an empty stretch. -/
  last : Span
  /-- Whether the next character directly follows a token. -/
  glued : Bool

/-- The text by which the grammar knows a token. -/
def tokenText (kind : TokenKind) (lexeme : List Char) : String :=
  match kind with
  | .directive => (directiveCommand (lexeme.drop 1)).1
  | .text => ""
  | _ => String.ofList lexeme

/-- Takes lexemes off the text from a cursor on, behind the tokens and remarks found so far. -/
def lexFrom (cursor : Cursor) (text : List Char) (lexed : Lexed) : Lexed :=
  if text.isEmpty then lexed
  else
    let lexeme := firstLexeme text
    let length := max 1 lexeme.length
    let taken := text.take length
    let span : Span := ⟨cursor.position, cursor.position + taken.length, cursor.line⟩
    let line := cursor.line + taken.count '\n'
    let behind : Span := ⟨span.stop, span.stop, line⟩
    let rest := text.drop length
    match lexeme.kind with
    | .blank => lexFrom ⟨span.stop, line, cursor.last, false⟩ rest lexed
    | .remark =>
      lexFrom ⟨span.stop, line, behind, false⟩ rest
        { lexed with remarks := lexed.remarks.push ⟨span⟩ }
    | .token kind =>
      let token : Token :=
        ⟨kind, tokenText kind taken, cursor.last, span, behind, cursor.glued⟩
      lexFrom ⟨span.stop, line, behind, true⟩ rest
        { lexed with tokens := lexed.tokens.push token }
termination_by text.length
decreasing_by
  all_goals
    have : text ≠ [] := by intro h; simp_all
    have : 0 < text.length := List.length_pos_iff.2 this
    simp only [List.length_drop]; omega

/-- The tokens and remarks of a source text. -/
def lex (source : Source) : Lexed :=
  lexFrom ⟨0, 1, ⟨0, 0, 1⟩, false⟩ source.chars.toList ⟨#[], #[]⟩

end TypedMvc.CSharp
