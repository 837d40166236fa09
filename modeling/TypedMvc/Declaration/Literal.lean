/-!
# String literals

How a text is written as a string literal on one line. Quotation marks, backslashes and control
characters are escaped; everything else stands for itself.
-/

namespace TypedMvc.Declaration

/-- Whether a character is a control character. -/
def isControl (c : Char) : Bool := c.toNat < 32 || (127 ≤ c.toNat && c.toNat < 160)

/-- The lower-case hexadecimal digit for a number below sixteen. -/
def hexDigit (n : Nat) : Char := Nat.digitChar n

/-- The escape of a character by its code in four hexadecimal digits. -/
def codeEscape (c : Char) : List Char :=
  let n := c.toNat
  ['\\', 'u', hexDigit (n / 4096 % 16), hexDigit (n / 256 % 16), hexDigit (n / 16 % 16),
    hexDigit (n % 16)]

/-- A character as it is written in a literal. -/
def escapeChar (c : Char) : List Char :=
  if c = '"' then ['\\', '"']
  else if c = '\\' then ['\\', '\\']
  else if c = '\n' then ['\\', 'n']
  else if c = '\r' then ['\\', 'r']
  else if c = '\t' then ['\\', 't']
  else if c = '\x00' then ['\\', '0']
  else if isControl c then codeEscape c
  else [c]

/-- The literal for a text, with its quotation marks. -/
def literalChars (text : List Char) : List Char :=
  '"' :: (text.flatMap escapeChar ++ ['"'])

/-- The literal for a text, with its quotation marks. -/
def literal (s : String) : String := String.ofList (literalChars s.toList)

end TypedMvc.Declaration
