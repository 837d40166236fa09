import TypedMvc.Unicode.Printable

/-!
# Quoting a text in a message

A text in a message stands between quotation marks. Characters that would be misread are written
as escapes: quotation marks and backslashes, ends of lines and tabs, and whatever leaves no
visible mark of its own.
-/

namespace TypedMvc.Text

/-- The number in lower-case hexadecimal digits. -/
def hexadecimal (n : Nat) : List Char := Nat.toDigits 16 n

/-- A character as it is written between quotation marks. -/
def quotedChar (c : Char) : List Char :=
  if c = '"' then ['\\', '"']
  else if c = '\\' then ['\\', '\\']
  else if c = '\n' then ['\\', 'n']
  else if c = '\r' then ['\\', 'r']
  else if c = '\t' then ['\\', 't']
  else if c = '\x00' then ['\\', '0']
  else if Unicode.isPrintable c then [c]
  else ['\\', 'u', '\x7b'] ++ hexadecimal c.toNat ++ ['\x7d']

/-- A text in quotation marks. -/
def quoted (s : String) : String :=
  String.ofList ('"' :: (s.toList.flatMap quotedChar ++ ['"']))

end TypedMvc.Text
