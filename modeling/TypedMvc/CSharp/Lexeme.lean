import TypedMvc.CSharp.Token
import TypedMvc.Unicode.IdentifierClass

/-!
# Lexemes

How far the first lexeme of a text reaches, and what sort it is. Every rule is a function from the
characters ahead to a number of characters. A string literal is one lexeme, with everything that
is interpolated into it.
-/

namespace TypedMvc.CSharp

/-- The sort of a lexeme: blank space, a remark that the grammar passes over, or a token. -/
inductive LexemeKind where
  /-- White space. -/
  | blank
  /-- A comment, or a directive that is not conditional. -/
  | remark
  /-- A token of the given kind. -/
  | token (kind : TokenKind)
  deriving Repr, DecidableEq, Inhabited

/-- The first lexeme of a text: its sort and the number of its characters. -/
structure Lexeme where
  /-- The sort of the lexeme. -/
  kind : LexemeKind
  /-- How many characters it takes. -/
  length : Nat
  deriving Repr, Inhabited

/-- How many characters at the front of a text satisfy a test. -/
def countWhile (p : Char → Bool) (text : List Char) : Nat := (text.takeWhile p).length

/-- White space between tokens. -/
def isBlank (c : Char) : Bool :=
  ('\t' ≤ c && c ≤ '\r') || c == ' ' || c == '\u00a0' || c == '\ufeff' || c == '\u3000'

/-! ## Words and numbers -/

/-- The hexadecimal digits. -/
def isHexDigit (c : Char) : Bool :=
  c.isDigit || ('a' ≤ c && c ≤ 'f') || ('A' ≤ c && c ≤ 'F')

/-- The length of a Unicode escape at the front of a text, zero if there is none. -/
def escapeLength : List Char → Nat
  | '\\' :: 'u' :: rest => if countWhile isHexDigit (rest.take 4) = 4 then 6 else 0
  | '\\' :: 'U' :: rest => if countWhile isHexDigit (rest.take 8) = 8 then 10 else 0
  | _ => 0

/-- The length of the rest of an identifier, `pending` characters of which complete an escape. -/
def identifierRest (pending : Nat) : List Char → Nat
  | [] => 0
  | c :: rest =>
    if 0 < pending then 1 + identifierRest (pending - 1) rest
    else if Unicode.isXidContinue c then 1 + identifierRest 0 rest
    else
      let n := escapeLength (c :: rest)
      if n = 0 then 0 else 1 + identifierRest (n - 1) rest

/-- The length of a word without a leading `@`, zero if there is none. -/
def bareWordLength (text : List Char) : Nat :=
  match text with
  | [] => 0
  | c :: rest =>
    if Unicode.isXidStart c || c == '_' then 1 + identifierRest 0 rest
    else
      let n := escapeLength text
      if n = 0 then 0 else 1 + identifierRest (n - 1) rest

/-- The length of a word, zero if there is none. -/
def wordLength : List Char → Nat
  | '@' :: rest => let n := bareWordLength rest; if n = 0 then 0 else n + 1
  | text => bareWordLength text

/-- The characters of a number, its suffix included. -/
def isNumberPart (c : Char) : Bool := c.isAlphanum || c == '_'

/-- The length of the sign and the digits that complete an exponent. -/
def exponentLength : List Char → Nat
  | sign :: digit :: rest =>
    if (sign == '+' || sign == '-') && digit.isDigit then 2 + countWhile isNumberPart rest else 0
  | _ => 0

/-- The length of a run of digits with its exponent. -/
def digitsLength (text : List Char) : Nat :=
  let run := text.takeWhile isNumberPart
  let decimal := !(run.take 2 == ['0', 'x'] || run.take 2 == ['0', 'X'])
  match run.getLast? with
  | some e =>
    if decimal && (e == 'e' || e == 'E') then run.length + exponentLength (text.drop run.length)
    else run.length
  | none => 0

/-- The length of a number, zero if there is none. -/
def numberLength (text : List Char) : Nat :=
  match text with
  | '.' :: c :: _ => if c.isDigit then 1 + digitsLength (text.drop 1) else 0
  | c :: _ =>
    if c.isDigit then
      let n := digitsLength text
      match text.drop n with
      | '.' :: d :: _ => if d.isDigit then n + 1 + digitsLength (text.drop (n + 1)) else n
      | _ => n
    else 0
  | [] => 0

/-! ## Literals -/

/-- The length of the rest of a regular string, its closing quote included. -/
def regularRest : List Char → Option Nat
  | [] => none
  | '"' :: _ => some 1
  | '\n' :: _ => none
  | '\\' :: c :: rest => if c = '\n' then none else (regularRest rest).map (· + 2)
  | _ :: rest => (regularRest rest).map (· + 1)

/-- The length of the rest of a verbatim string, in which a quote is written twice. -/
def verbatimRest : List Char → Option Nat
  | [] => none
  | '"' :: '"' :: rest => (verbatimRest rest).map (· + 2)
  | '"' :: _ => some 1
  | _ :: rest => (verbatimRest rest).map (· + 1)

/-- The length of the rest of a raw string, which as many quotes end as began it. -/
def rawRest (quotes : Nat) : List Char → Option Nat
  | [] => none
  | c :: rest =>
    let run := countWhile (· == '"') (c :: rest)
    if quotes ≤ run then some run else (rawRest quotes rest).map (· + 1)

/-- The length of the rest of a character literal. -/
def charRest : List Char → Option Nat
  | '\\' :: c :: rest =>
    if c = '\n' then none
    else
      let n := countWhile Char.isAlphanum rest
      if rest[n]? = some '\'' then some (n + 3) else none
  | c :: '\'' :: _ => if c = '\n' ∨ c = '\'' then none else some 2
  | _ => none

mutual
/-- The length of the rest of an interpolated string, its closing quote included. -/
def interpolatedRest (verbatim : Bool) : (fuel : Nat) → List Char → Option Nat
  | 0, _ => none
  | _, [] => none
  | fuel + 1, '{' :: '{' :: rest => (interpolatedRest verbatim fuel rest).map (· + 2)
  | fuel + 1, '{' :: rest => do
    let hole ← holeRest 0 fuel rest
    let more ← interpolatedRest verbatim fuel (rest.drop hole)
    return 1 + hole + more
  | fuel + 1, '"' :: rest =>
    if verbatim ∧ rest.head? = some '"' then
      (interpolatedRest verbatim fuel (rest.drop 1)).map (· + 2)
    else some 1
  | fuel + 1, c :: rest =>
    if c = '\\' ∧ ¬verbatim then (interpolatedRest verbatim fuel (rest.drop 1)).map (· + 2)
    else if c = '\n' ∧ ¬verbatim then none
    else (interpolatedRest verbatim fuel rest).map (· + 1)

/-- The length of the rest of an interpolated expression, its closing brace included. -/
def holeRest (depth : Nat) : (fuel : Nat) → List Char → Option Nat
  | 0, _ => none
  | _, [] => none
  | fuel + 1, c :: rest =>
    if c = '}' ∧ depth = 0 then some 1
    else if c = '}' ∨ c = ')' ∨ c = ']' then (holeRest (depth - 1) fuel rest).map (· + 1)
    else if c = '{' ∨ c = '(' ∨ c = '[' then (holeRest (depth + 1) fuel rest).map (· + 1)
    else
      match literalLength fuel (c :: rest) with
      | some none => none
      | some (some n) => (holeRest depth fuel (rest.drop (n - 1))).map (· + n)
      | none => (holeRest depth fuel rest).map (· + 1)

/-- The length of a literal at the front of a text: nothing if none starts there, and nothing
inside if it has no end. -/
def literalLength : (fuel : Nat) → List Char → Option (Option Nat)
  | 0, _ => none
  | fuel + 1, text =>
    let dollars := countWhile (· == '$') text
    let quotes := countWhile (· == '"') (text.drop dollars)
    if 3 ≤ quotes then
      some ((rawRest quotes (text.drop (dollars + quotes))).map (· + (dollars + quotes)))
    else
      match text with
      | '"' :: rest => some ((regularRest rest).map (· + 1))
      | '\'' :: rest => some ((charRest rest).map (· + 1))
      | '@' :: '"' :: rest => some ((verbatimRest rest).map (· + 2))
      | '$' :: '"' :: rest => some ((interpolatedRest false fuel rest).map (· + 2))
      | '$' :: '@' :: '"' :: rest => some ((interpolatedRest true fuel rest).map (· + 3))
      | '@' :: '$' :: '"' :: rest => some ((interpolatedRest true fuel rest).map (· + 3))
      | _ => none
end

/-- The length of the suffix that makes a string a sequence of bytes. -/
def bytesSuffixLength : List Char → Nat
  | 'u' :: '8' :: _ => 2
  | 'U' :: '8' :: _ => 2
  | _ => 0

/-! ## Comments and directives -/

/-- The length of the rest of a block comment. -/
def blockCommentRest : List Char → Option Nat
  | [] => none
  | '*' :: '/' :: _ => some 2
  | _ :: rest => (blockCommentRest rest).map (· + 1)

/-- The characters up to the end of the line. -/
def lineRest (text : List Char) : Nat := countWhile (· != '\n') text

/-- The characters of a directive's condition: up to a comment or the end of the line. -/
def conditionRest : List Char → Nat
  | [] => 0
  | '\n' :: _ => 0
  | '/' :: '/' :: _ => 0
  | _ :: rest => 1 + conditionRest rest

/-- The directives that the grammar passes over, each to the end of its line. -/
def silentDirectives : List String :=
  ["region", "endregion", "line", "pragma", "nullable", "error", "warning", "define", "undef"]

/-- The command of a directive whose number sign has been read, and the number of characters up
to its end. -/
def directiveCommand (text : List Char) : String × Nat :=
  let gap := countWhile (fun c => c == ' ' || c == '\t') text
  let name := (text.drop gap).takeWhile Char.isAlpha
  (String.ofList name, gap + name.length)

/-- The lexeme that a number sign starts. -/
def directiveLexeme (text : List Char) : Lexeme :=
  let (command, n) := directiveCommand text
  if silentDirectives.contains command then ⟨.remark, 1 + lineRest text⟩
  else if command == "if" || command == "elif" then
    ⟨.token .directive, 1 + n + conditionRest (text.drop n)⟩
  else if command == "else" || command == "endif" then ⟨.token .directive, 1 + n⟩
  else if text.head? = some '!' then ⟨.remark, 1 + lineRest text⟩
  else ⟨.token .stray, 1⟩

/-! ## Punctuation -/

/-- The operators and separators of several characters. -/
def longPunctuation : List String := [
  "<<=", "??=", "=>", "==", "!=", "<=", ">=", "&&", "||", "++", "--", "+=", "-=", "*=", "/=",
  "%=", "&=", "|=", "^=", "->", "::", "..", "??", "<<"]

/-- The operators, brackets and separators of one character. -/
def shortPunctuation : List Char := "()\x7b\x7d[];,.:?=<>+-*/%&|^!~".toList

/-- The length of a punctuation mark, zero if there is none. -/
def punctuationLength (text : List Char) : Nat :=
  match longPunctuation.find? fun mark => mark.toList.isPrefixOf text with
  | some mark => mark.length
  | none =>
    match text with
    | c :: _ => if shortPunctuation.contains c then 1 else 0
    | [] => 0

/-! ## The first lexeme -/

/-- The characters that a literal may start with. -/
def startsLiteral (c : Char) : Bool := c == '"' || c == '\'' || c == '@' || c == '$'

/-- The length of a literal at the front of a text, with fuel for all of the text. -/
def literalAhead (text : List Char) : Option (Option Nat) :=
  match text with
  | c :: _ => if startsLiteral c then literalLength (text.length + 1) text else none
  | [] => none

/-- The first lexeme of a text that is neither blank, nor a comment, nor a directive. -/
def tokenLexeme (text : List Char) : Lexeme :=
  match literalAhead text with
  | some (some n) =>
    let suffix := if text.head? = some '\'' then 0 else bytesSuffixLength (text.drop n)
    ⟨.token .text, n + suffix⟩
  | some none => ⟨.token .unterminated, max 1 (lineRest text)⟩
  | none =>
    let word := wordLength text
    let number := numberLength text
    let mark := punctuationLength text
    if word ≠ 0 then ⟨.token .word, word⟩
    else if number ≠ 0 then ⟨.token .number, number⟩
    else if mark ≠ 0 then ⟨.token .punctuation, mark⟩
    else ⟨.token .stray, 1⟩

/-- The first lexeme of a text. -/
def firstLexeme (text : List Char) : Lexeme :=
  match text with
  | '/' :: '/' :: _ => ⟨.remark, lineRest text⟩
  | '/' :: '*' :: rest =>
    match blockCommentRest rest with
    | some n => ⟨.remark, n + 2⟩
    | none => ⟨.token .unterminated, text.length⟩
  | '#' :: rest => directiveLexeme rest
  | c :: _ => if isBlank c then ⟨.blank, countWhile isBlank text⟩ else tokenLexeme text
  | [] => ⟨.blank, 0⟩

end TypedMvc.CSharp
