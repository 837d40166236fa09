/-!
# Reserved words

The reserved words of C#. A member may only be named like one of them behind an `@`.
-/

namespace TypedMvc.Naming

/-- The reserved words of C#, in alphabetical order. -/
def keywords : List String := [
  "abstract", "as", "base", "bool", "break", "byte", "case", "catch", "char", "checked", "class",
  "const", "continue", "decimal", "default", "delegate", "do", "double", "else", "enum", "event",
  "explicit", "extern", "false", "finally", "fixed", "float", "for", "foreach", "goto", "if",
  "implicit", "in", "int", "interface", "internal", "is", "lock", "long", "namespace", "new",
  "null", "object", "operator", "out", "override", "params", "private", "protected", "public",
  "readonly", "ref", "return", "sbyte", "sealed", "short", "sizeof", "stackalloc", "static",
  "string", "struct", "switch", "this", "throw", "true", "try", "typeof", "uint", "ulong",
  "unchecked", "unsafe", "ushort", "using", "virtual", "void", "volatile", "while"]

/-- Whether a name is a reserved word. -/
def isKeyword (name : String) : Bool := keywords.contains name

/-- Being a reserved word is membership in the list. -/
theorem isKeyword_iff {name : String} : isKeyword name = true ↔ name ∈ keywords := by
  simp [isKeyword]

end TypedMvc.Naming
