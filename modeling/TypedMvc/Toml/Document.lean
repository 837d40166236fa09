import TypedMvc.Toml.Scalar
import TypedMvc.Toml.Table
import TypedMvc.Toml.Text

/-!
# Configuration documents

A document is read line by line: headers of tables, keys with their values, and comments. Only
arrays, tables in braces and texts in triple marks go over several lines. A document with a fault
anywhere is refused as a whole. Other readers of documents can take the place of this one
(`DocumentReader`).
-/

namespace TypedMvc.Toml

open Data

/-- The text without blanks in front. -/
def skipBlanks (text : List Char) : List Char := text.dropWhile isBlank

/-- What follows a comment, if the text begins with one. -/
def skipComment? : List Char → Option (List Char)
  | '#' :: rest =>
    let after := rest.dropWhile isContent
    if after.isEmpty || (afterNewline? after).isSome then some after else none
  | text => some text

/-- What follows the end of a line, blanks and a comment in front of it included. -/
def endOfLine? (text : List Char) : Option (List Char) :=
  (skipComment? (skipBlanks text)).bind fun rest =>
    if rest.isEmpty then some [] else afterNewline? rest

/-- The text without the blanks, ends of lines and comments in front. -/
def skipLines? : (fuel : Nat) → List Char → Option (List Char)
  | 0, _ => none
  | fuel + 1, text =>
    (skipComment? (skipBlanks text)).bind fun rest =>
      match afterNewline? rest with
      | some rest => skipLines? fuel rest
      | none => some rest

/-- The characters of keys without quotation marks. -/
def isKeyChar (c : Char) : Bool := c.isAlphanum || c == '_' || c == '-'

/-- One part of a key, and what follows it. -/
def keyPart? (text : List Char) : Option (String × List Char) :=
  match text with
  | '"' :: _ | '\'' :: _ =>
    (lineText? text).map fun (content, rest) => (String.ofList content, rest)
  | _ =>
    let key := text.takeWhile isKeyChar
    if key.isEmpty then none else some (String.ofList key, text.drop key.length)

/-- A key, and what follows it and the blanks behind it. -/
def key? : (fuel : Nat) → List Char → Option (List String × List Char)
  | 0, _ => none
  | fuel + 1, text =>
    (keyPart? (skipBlanks text)).bind fun (part, rest) =>
      match skipBlanks rest with
      | '.' :: rest => (key? fuel rest).map fun (parts, rest) => (part :: parts, rest)
      | rest => some ([part], rest)

/-- Whether a character belongs to a value without quotation marks. -/
def isScalarChar (c : Char) : Bool :=
  !(isBlank c || c == '\n' || c == '\r' || c == ',' || c == ']' || c == '\x7d' || c == '#')

/-- A value without quotation marks, and what follows it. Between a date and a time there may be
one blank. -/
def bareValue? (text : List Char) : Option (Value × List Char) :=
  let word := text.takeWhile isScalarChar
  let rest := text.drop word.length
  let time := (rest.drop 1).takeWhile isScalarChar
  if rest.head? == some ' ' && afterDate? word == some [] && (afterTime? time).isSome then
    (scalar? (word ++ ' ' :: time)).map fun value => (value, rest.drop (1 + time.length))
  else (scalar? word).map fun value => (value, rest)

/-- How deep arrays and tables in braces may be nested. -/
def maxDepth : Nat := 80

mutual
/-- A value, and what follows it. -/
def value? (depth : Nat) : (fuel : Nat) → List Char → Option (Value × List Char)
  | 0, _ => none
  | fuel + 1, text =>
    match text with
    | '[' :: rest => if depth < maxDepth then items? (depth + 1) fuel [] rest else none
    | '\x7b' :: rest =>
      if depth < maxDepth then fields? (depth + 1) fuel [] rest else none
    | '"' :: _ | '\'' :: _ =>
      (text? text).map fun (content, rest) => (.text (String.ofList content), rest)
    | _ => bareValue? text

/-- The rest of an array behind some of its items, which are in reverse, and what follows it. -/
def items? (depth : Nat) : (fuel : Nat) → List Value → List Char →
    Option (Value × List Char)
  | 0, _, _ => none
  | fuel + 1, items, text =>
    (skipLines? (text.length + 1) text).bind fun rest =>
      match rest with
      | ']' :: rest => some (.array items.reverse, rest)
      | rest =>
        (value? depth fuel rest).bind fun (item, rest) =>
          (skipLines? (rest.length + 1) rest).bind fun rest =>
            match rest with
            | ',' :: rest => items? depth fuel (item :: items) rest
            | ']' :: rest => some (.array (item :: items).reverse, rest)
            | _ => none

/-- The rest of a table in braces behind some of its entries, and what follows it. -/
def fields? (depth : Nat) : (fuel : Nat) → Entries → List Char →
    Option (Value × List Char)
  | 0, _, _ => none
  | fuel + 1, entries, text =>
    (skipLines? (text.length + 1) text).bind fun rest =>
      match rest with
      | '\x7d' :: rest => some (.object (fieldsOf entries), rest)
      | rest =>
        (key? (rest.length + 1) rest).bind fun (path, rest) =>
          match rest with
          | '=' :: rest =>
            (value? depth fuel (skipBlanks rest)).bind fun (value, rest) =>
              (setKey? path value entries).bind fun entries =>
                (skipLines? (rest.length + 1) rest).bind fun rest =>
                  match rest with
                  | ',' :: rest => fields? depth fuel entries rest
                  | '\x7d' :: rest => some (.object (fieldsOf entries), rest)
                  | _ => none
          | _ => none
end

/-- What has been read of a document. -/
structure State where
  /-- The path of the table that keys are set in. -/
  table : List String
  /-- The tables. -/
  root : Entries

/-- Reads one line, which begins with no blank, and gives what follows it. -/
def line? (state : State) (text : List Char) : Option (State × List Char) :=
  match text with
  | '[' :: '[' :: rest =>
    (key? (rest.length + 1) rest).bind fun (path, rest) =>
      match rest with
      | ']' :: ']' :: rest =>
        (appendTable? path state.root).bind fun root =>
          (endOfLine? rest).map fun rest => (⟨path, root⟩, rest)
      | _ => none
  | '[' :: rest =>
    (key? (rest.length + 1) rest).bind fun (path, rest) =>
      match rest with
      | ']' :: rest =>
        (defineTable? path state.root).bind fun root =>
          (endOfLine? rest).map fun rest => (⟨path, root⟩, rest)
      | _ => none
  | _ =>
    (key? (text.length + 1) text).bind fun (path, rest) =>
      match rest with
      | '=' :: rest =>
        let rest := skipBlanks rest
        (value? 0 (2 * rest.length + 2) rest).bind fun (value, rest) =>
          (setKeyIn? state.table path value state.root).bind fun root =>
            (endOfLine? rest).map fun rest => (⟨state.table, root⟩, rest)
      | _ => none

/-- Reads the lines of a document behind those already read. -/
def lines? : (fuel : Nat) → State → List Char → Option Entries
  | 0, _, _ => none
  | fuel + 1, state, text =>
    (skipLines? (text.length + 1) text).bind fun rest =>
      if rest.isEmpty then some state.root
      else (line? state rest).bind fun (state, rest) => lines? fuel state rest

/-- The value of a document. A byte order mark in front is passed over. -/
def document? (s : String) : Option Value :=
  let text := match s.toList with
    | '\ufeff' :: rest => rest
    | text => text
  (lines? (text.length + 1) ⟨[], []⟩ text).map fun root => .object (fieldsOf root)

/-- A reader of documents: it has the value of a document, unless that has a fault. -/
abbrev DocumentReader := String → Option Value

end TypedMvc.Toml
