import TypedMvc.Data.Value

/-!
# JSON text

Structured values as JSON text on several lines, with two blanks for each level. The fields of an
object stand in the order of the object, or in the order of their names once they are sorted.
-/

namespace TypedMvc.Data

namespace Value

/-- Puts a field in front of the first one with a greater name. -/
def insertField (field : String × Value) : List (String × Value) → List (String × Value)
  | [] => [field]
  | other :: rest =>
    if field.1 ≤ other.1 then field :: other :: rest else other :: insertField field rest

mutual
/-- The value with the fields of all its objects in the order of their names. -/
def sortFields : Value → Value
  | .array items => .array (sortFieldsAll items)
  | .object fields => .object (sortedFields fields)
  | value => value

/-- The values with the fields of all their objects in the order of their names. -/
def sortFieldsAll : List Value → List Value
  | [] => []
  | value :: rest => sortFields value :: sortFieldsAll rest

/-- The fields in the order of their names, and so in their values. -/
def sortedFields : List (String × Value) → List (String × Value)
  | [] => []
  | (name, value) :: rest => insertField (name, sortFields value) (sortedFields rest)
end

end Value

namespace Json

/-- The lower-case hexadecimal digit for a number below sixteen. -/
def hexDigit (n : Nat) : Char := Nat.digitChar n

/-- A character as it is written in a JSON text. -/
def escapeChar (c : Char) : List Char :=
  if c = '"' then ['\\', '"']
  else if c = '\\' then ['\\', '\\']
  else if c = '\n' then ['\\', 'n']
  else if c = '\r' then ['\\', 'r']
  else if c = '\t' then ['\\', 't']
  else if c = '\x08' then ['\\', 'b']
  else if c = '\x0c' then ['\\', 'f']
  else if c.toNat < 32 then
    ['\\', 'u', '0', '0', hexDigit (c.toNat / 16), hexDigit (c.toNat % 16)]
  else [c]

/-- A text in quotation marks. -/
def quote (s : String) : String :=
  String.ofList ('"' :: (s.toList.flatMap escapeChar ++ ['"']))

/-- The blanks in front of a line. -/
def indent (depth : Nat) : String := String.ofList (List.replicate (2 * depth) ' ')

mutual
/-- A value as JSON text that begins on a line of some depth. -/
def pretty (depth : Nat) : Value → String
  | .null => "null"
  | .boolean true => "true"
  | .boolean false => "false"
  | .number n => toString n
  | .decimal text => text
  | .text s => quote s
  | .array items =>
    if items.isEmpty then "[]"
    else "[\n" ++ prettyItems (depth + 1) items ++ "\n" ++ indent depth ++ "]"
  | .object fields =>
    if fields.isEmpty then "\x7b\x7d"
    else "\x7b\n" ++ prettyFields (depth + 1) fields ++ "\n" ++ indent depth ++ "\x7d"

/-- Items of an array, each on a line of its own. -/
def prettyItems (depth : Nat) : List Value → String
  | [] => ""
  | value :: rest =>
    indent depth ++ pretty depth value ++
      if rest.isEmpty then "" else ",\n" ++ prettyItems depth rest

/-- Fields of an object, each on a line of its own. -/
def prettyFields (depth : Nat) : List (String × Value) → String
  | [] => ""
  | (name, value) :: rest =>
    indent depth ++ quote name ++ ": " ++ pretty depth value ++
      if rest.isEmpty then "" else ",\n" ++ prettyFields depth rest
end

/-- A value as JSON text. -/
def render (value : Value) : String := pretty 0 value

end Json

end TypedMvc.Data
