import Mathlib.Data.List.Basic
import TypedMvc.CSharp.Lexer

/-!
# Lines that are counted

Each stretch of a text says on which line it starts. It is counted if that is one more than the line
feeds in front of it (`Span.IsCounted`). The lexer counts the lines as it goes: the cursor stays on
the line of what is left of the text (`Cursor.IsAt.advance`), so the stretches of the tokens and
remarks are counted, and so are the empty ones at their ends (`areCounted_lex`).
-/

namespace TypedMvc.CSharp

/-- The line of a position in a text, counted from one. -/
def Source.lineAt (source : Source) (position : ℕ) : ℕ :=
  1 + (source.chars.toList.take position).count '\n'

variable {source : Source}

/-- A stretch starts on the line that it says. -/
def Span.IsCounted (source : Source) (span : Span) : Prop := span.line = source.lineAt span.start

/-- An empty stretch at the start of the text is on the first line. -/
theorem isCounted_start : Span.IsCounted source ⟨0, 0, 1⟩ := rfl

/-! ## Lexing -/

/-- The stretches of a token and of its surroundings are counted. -/
structure Token.IsCounted (source : Source) (token : Token) : Prop where
  /-- Where the one in front of it ends. -/
  before : token.before.IsCounted source
  /-- Where it stands. -/
  span : token.span.IsCounted source
  /-- Where it ends. -/
  behind : token.behind.IsCounted source

/-- All stretches of tokens and remarks are counted. -/
structure Lexed.AreCounted (source : Source) (lexed : Lexed) : Prop where
  /-- Those of the tokens. -/
  tokens : ∀ token ∈ lexed.tokens, token.IsCounted source
  /-- Those of the remarks. -/
  remarks : ∀ remark ∈ lexed.remarks, remark.span.IsCounted source

/-- The cursor stands in front of the rest of the text, on the line that it says. -/
structure Cursor.IsAt (source : Source) (cursor : Cursor) (rest : List Char) : Prop where
  /-- What is left of the text begins at the position of the cursor. -/
  position : source.chars.toList.drop cursor.position = rest
  /-- The line is that of the position. -/
  line : cursor.line = source.lineAt cursor.position
  /-- The end of the last token or remark is counted. -/
  last : cursor.last.IsCounted source

/-- Behind some characters the line is further by the line feeds among them. -/
theorem Source.lineAt_add {position : ℕ} {rest : List Char}
    (here : source.chars.toList.drop position = rest) (length : ℕ) :
    source.lineAt (position + (rest.take length).length) =
      source.lineAt position + (rest.take length).count '\n' := by
  have taken : rest.take (rest.take length).length = rest.take length := by
    rw [List.length_take, ← List.take_eq_take_min]
  rw [lineAt, lineAt, List.take_add, List.count_append, Nat.add_assoc, here, taken]

/-- When some characters are taken off the text, the place behind them is counted, and the cursor
can stand there. -/
theorem Cursor.IsAt.advance {cursor : Cursor} {text : List Char} (isAt : cursor.IsAt source text)
    (length : ℕ) :
    let position := cursor.position + (text.take length).length
    let line := cursor.line + (text.take length).count '\n'
    Span.IsCounted source ⟨position, position, line⟩ ∧
      ∀ last glued, last.IsCounted source →
        Cursor.IsAt source ⟨position, line, last, glued⟩ (text.drop length) := by
  intro position line
  have counted : line = source.lineAt position := by
    rw [Source.lineAt_add isAt.position, ← isAt.line]
  have left : source.chars.toList.drop position = text.drop length := by
    rw [← List.drop_drop, isAt.position, List.length_take, ← List.drop_eq_drop_min]
  exact ⟨counted, fun last glued isCounted => ⟨left, counted, isCounted⟩⟩

/-- The lexer counts the lines of what it takes off the text. -/
theorem areCounted_lexFrom {cursor : Cursor} {text : List Char} {lexed : Lexed}
    (isAt : cursor.IsAt source text) (counted : lexed.AreCounted source) :
    (lexFrom cursor text lexed).AreCounted source := by
  fun_induction lexFrom cursor text lexed with
  | case1 => exact counted
  | case2 cursor text lexed _ lexeme length taken span line rest isBlank ih =>
    obtain ⟨-, further⟩ := isAt.advance length
    exact ih (further _ _ isAt.last) counted
  | case3 cursor text lexed _ lexeme length taken span line behind rest isRemark ih =>
    obtain ⟨ends, further⟩ := isAt.advance length
    refine ih (further _ _ ends) ⟨counted.tokens, fun remark mem => ?_⟩
    rcases Array.mem_push.mp mem with known | rfl
    · exact counted.remarks remark known
    · exact isAt.line
  | case4 cursor text lexed _ lexeme length taken span line behind rest kind isToken token ih =>
    obtain ⟨ends, further⟩ := isAt.advance length
    refine ih (further _ _ ends) ⟨fun other mem => ?_, counted.remarks⟩
    rcases Array.mem_push.mp mem with known | rfl
    · exact counted.tokens other known
    · exact ⟨isAt.last, isAt.line, ends⟩

/-- The tokens and remarks of a text are on the lines that they say. -/
theorem areCounted_lex (source : Source) : (lex source).AreCounted source := by
  refine areCounted_lexFrom ⟨List.drop_zero, rfl, isCounted_start⟩ ⟨?_, ?_⟩
  · simp
  · simp

end TypedMvc.CSharp
