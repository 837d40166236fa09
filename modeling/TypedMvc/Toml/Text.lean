/-!
# Texts in configuration documents

Texts are written between quotation marks, with escapes, or between apostrophes, without. Three
marks in a row begin a text of several lines. A line feed right behind them does not count, and a
backslash at the end of a line joins the next word to it.
-/

namespace TypedMvc.Toml

/-- Blanks and tabs. -/
def isBlank (c : Char) : Bool := c == ' ' || c == '\t'

/-- Whether a character may stand in a text or a comment: controls may not, tabs aside. -/
def isContent (c : Char) : Bool := c == '\t' || (32 ≤ c.toNat && c.toNat ≠ 127)

/-- What follows an end of line, if the text begins with one. -/
def afterNewline? : List Char → Option (List Char)
  | '\n' :: rest => some rest
  | '\r' :: '\n' :: rest => some rest
  | _ => none

/-- The value of a hexadecimal digit. -/
def hexValue? (c : Char) : Option Nat :=
  if '0' ≤ c ∧ c ≤ '9' then some (c.toNat - 48)
  else if 'a' ≤ c ∧ c ≤ 'f' then some (c.toNat - 87)
  else if 'A' ≤ c ∧ c ≤ 'F' then some (c.toNat - 55)
  else none

/-- The number written with a count of hexadecimal digits, and what follows them. -/
def hexNumber? : (count value : Nat) → List Char → Option (Nat × List Char)
  | 0, value, text => some (value, text)
  | _ + 1, _, [] => none
  | count + 1, value, c :: rest =>
    (hexValue? c).bind fun digit => hexNumber? count (16 * value + digit) rest

/-- The character with a code written in hexadecimal digits, and what follows them. Codes of
surrogates and codes that are too large stand for no character. -/
def codeEscape? (count : Nat) (text : List Char) : Option (Char × List Char) :=
  (hexNumber? count 0 text).bind fun (code, rest) =>
    if code.isValidChar then some (Char.ofNat code, rest) else none

/-- The character that an escape stands for, and what follows it, given what is behind the
backslash. -/
def escape? : List Char → Option (Char × List Char)
  | 'b' :: rest => some ('\x08', rest)
  | 'e' :: rest => some ('\x1b', rest)
  | 't' :: rest => some ('\t', rest)
  | 'n' :: rest => some ('\n', rest)
  | 'f' :: rest => some ('\x0c', rest)
  | 'r' :: rest => some ('\r', rest)
  | '"' :: rest => some ('"', rest)
  | '\\' :: rest => some ('\\', rest)
  | 'x' :: rest => codeEscape? 2 rest
  | 'u' :: rest => codeEscape? 4 rest
  | 'U' :: rest => codeEscape? 8 rest
  | _ => none

/-- What follows the blanks and ends of lines behind a backslash at the end of a line; none if the
backslash is not at the end of a line. -/
def afterJoin? (text : List Char) : Option (List Char) :=
  (afterNewline? (text.dropWhile isBlank)).map fun rest =>
    rest.dropWhile fun c => isBlank c || c == '\n' || c == '\r'

/-- A text on one line with escapes, and what follows it, given what is behind the opening mark.
The fuel is the length of the text. -/
def basic? : (fuel : Nat) → List Char → Option (List Char × List Char)
  | 0, _ => none
  | _ + 1, [] => none
  | _ + 1, '"' :: rest => some ([], rest)
  | fuel + 1, '\\' :: rest =>
    (escape? rest).bind fun (c, rest) =>
      (basic? fuel rest).map fun (content, rest) => (c :: content, rest)
  | fuel + 1, c :: rest =>
    if isContent c then (basic? fuel rest).map fun (content, rest) => (c :: content, rest)
    else none

/-- A text on one line without escapes, and what follows it, given what is behind the opening
mark. -/
def literal? : List Char → Option (List Char × List Char)
  | [] => none
  | '\'' :: rest => some ([], rest)
  | c :: rest =>
    if isContent c then (literal? rest).map fun (content, rest) => (c :: content, rest) else none

/-- The marks that close a text of several lines: three of them, and up to two more that belong to
the text. Gives what belongs to the text, and what follows. -/
def closing? (mark : Char) (text : List Char) : Option (List Char × List Char) :=
  let marks := (text.takeWhile (· == mark)).length
  if 3 ≤ marks then
    let extra := min 2 (marks - 3)
    some (List.replicate extra mark, text.drop (3 + extra))
  else none

/-- A text of several lines, and what follows it, given what is behind the opening marks. Escapes
are read where `escapes` says so. The fuel is the length of the text. -/
def multiline? (mark : Char) (escapes : Bool) : (fuel : Nat) → List Char →
    Option (List Char × List Char)
  | 0, _ => none
  | fuel + 1, text =>
    match closing? mark text with
    | some closed => some closed
    | none =>
      match afterNewline? text with
      | some rest =>
        (multiline? mark escapes fuel rest).map fun (content, rest) => ('\n' :: content, rest)
      | none =>
        match text with
        | [] => none
        | c :: rest =>
          if escapes && c == '\\' then
            match afterJoin? rest with
            | some rest => multiline? mark escapes fuel rest
            | none =>
              (escape? rest).bind fun (c, rest) =>
                (multiline? mark escapes fuel rest).map fun (content, rest) =>
                  (c :: content, rest)
          else if isContent c then
            (multiline? mark escapes fuel rest).map fun (content, rest) => (c :: content, rest)
          else none

/-- A text on one line, and what follows it. -/
def lineText? : List Char → Option (List Char × List Char)
  | '"' :: rest => basic? (rest.length + 1) rest
  | '\'' :: rest => literal? rest
  | _ => none

/-- A text, and what follows it. -/
def text? : List Char → Option (List Char × List Char)
  | '"' :: '"' :: '"' :: rest =>
    let rest := (afterNewline? rest).getD rest
    multiline? '"' true (rest.length + 1) rest
  | '\'' :: '\'' :: '\'' :: rest =>
    let rest := (afterNewline? rest).getD rest
    multiline? '\'' false (rest.length + 1) rest
  | text => lineText? text

end TypedMvc.Toml
