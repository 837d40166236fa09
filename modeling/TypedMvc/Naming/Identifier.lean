import TypedMvc.Naming.Keyword
import TypedMvc.Text.Pieces
import TypedMvc.Unicode.Alphabetic

/-!
# Identifiers

Which names can stand in source text as they are, and how any other name is turned into one that
can: a character that no identifier holds becomes an underscore, a leading digit gets an
underscore in front, and a reserved word gets an `@`.
-/

namespace TypedMvc.Naming

open Unicode

/-- Whether a character can begin an identifier. -/
def beginsIdentifier (c : Char) : Bool := c == '_' || isAlphabetic c

/-- Whether a character can stand in an identifier. -/
def continuesIdentifier (c : Char) : Bool := c == '_' || isAlphanumeric c

/-- Whether a name can be used as an identifier as it is. -/
def isIdentifier (name : String) : Bool :=
  match name.toList with
  | [] => false
  | first :: rest => beginsIdentifier first && rest.all continuesIdentifier && !isKeyword name

/-- Whether a name is empty or a sequence of identifiers with dots between them. -/
def isNamespace (name : String) : Bool :=
  name == "" || (Text.pieces '.' name).all isIdentifier

/-- The identifier made from the characters of a name. -/
def sanitizeChars (name : List Char) : List Char :=
  let replaced := name.map fun c => if continuesIdentifier c then c else '_'
  match replaced with
  | [] => ['_']
  | first :: _ =>
    -- Some characters are letters and numbers at once; they get the underscore too.
    let ident := if isNumeric first then '_' :: replaced else replaced
    if isKeyword (String.ofList ident) then '@' :: ident else ident

/-- The identifier made from a name. -/
def sanitize (name : String) : String := String.ofList (sanitizeChars name.toList)

/-- Whether a name is a reserved word behind an `@`. -/
def isEscapedKeyword (name : String) : Bool :=
  match name.toList with
  | '@' :: rest => isKeyword (String.ofList rest)
  | _ => false

/-- The identifier of a member that stands for something called `name`: the name itself where it
can be used, and otherwise the identifier made from it. -/
def memberIdentifier (name : String) : String :=
  if isIdentifier name || isEscapedKeyword name then name else sanitize name

end TypedMvc.Naming
