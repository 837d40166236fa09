import TypedMvc.Text.Pieces
import TypedMvc.Unicode.WhiteSpace

/-!
# Simple names of types

A type is known in the project by its simple name: without the namespace or alias in front of it
and without the type arguments behind it.
-/

namespace TypedMvc.Symbols

open Unicode

/-- The part of a text behind its last pair of colons, or all of it. Pairs are looked for from the
end. -/
def afterAlias (text : List Char) : List Char :=
  let rec go : (after rest : List Char) → List Char
    | after, ':' :: ':' :: _ => after
    | after, c :: rest => go (c :: after) rest
    | after, [] => after
  go [] text.reverse

/-- The simple name in a text that refers to a type. -/
def simpleName (text : String) : String :=
  let bare := trimChars (text.toList.takeWhile fun c => c ≠ '<' && c ≠ '(')
  String.ofList (trimChars (Text.afterLast '.' (afterAlias bare)))

/-- The name by which an attribute is known: without the word that attribute types end with,
unless nothing else would be left. -/
def attributeName (text : String) : String :=
  let name := (simpleName text).toList
  let ending := "Attribute".toList
  if ending.isSuffixOf name && ending.length < name.length then
    String.ofList (name.take (name.length - ending.length))
  else String.ofList name

/-- The name that a method is declared under: one `@` in front is not part of it. -/
def methodName (text : String) : String :=
  match text.toList with
  | '@' :: rest => String.ofList rest
  | _ => text

end TypedMvc.Symbols
