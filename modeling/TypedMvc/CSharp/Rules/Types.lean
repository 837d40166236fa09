import TypedMvc.CSharp.Rules.Name

/-!
# Names and types

The grammar of simple and qualified names, of types, and of the patterns that test for them.
-/

namespace TypedMvc.CSharp.Rules

open Grammar

/-- An identifier. A missing one may be supplied. -/
def identifier : RuleBody := .terminal .identifier true

/-- An identifier as the node that names a declaration. -/
def declaredName : RuleBody := .role .name (.node .name identifier)

/-- The keywords that are types of their own. -/
def predefinedType : RuleBody := keywords [
  "bool", "byte", "char", "decimal", "double", "float", "int", "long", "object", "sbyte", "short",
  "string", "uint", "ulong", "ushort", "void"]

/-- Type arguments in angle brackets; only the commas where the type is left unbound. -/
def typeArguments : RuleBody :=
  all [mark "<", oneOf [sepBy1 "," (.rule .type), many (mark ",")], mark ">"]

/-- An identifier with its type arguments. -/
def simpleName : RuleBody := .seq (.terminal .identifier false) (opt (.rule .typeArguments))

/-- A dotted name, behind an alias and two colons if there is one. -/
def qualifiedName : RuleBody :=
  all [opt (.seq (.terminal .identifier false) (mark "::")),
    .seq identifier (opt (.rule .typeArguments)), many (.seq (mark ".") (.rule .simpleName))]

/-- A tuple type with at least two components, which may be named. -/
def tupleType : RuleBody :=
  let component := Grammar.seq (.rule .type) (opt (.terminal .identifier false))
  all [mark "(", component, many1 (.seq (mark ",") component), mark ")"]

/-- The type of a pointer to a function. -/
def functionPointer : RuleBody :=
  let convention := Grammar.seq (keywords ["managed", "unmanaged"])
    (opt (all [mark "[", sepBy1 "," (.terminal .identifier false), mark "]"]))
  let component := Grammar.seq (many (keywords ["ref", "out", "in", "readonly"])) (.rule .type)
  all [keyword "delegate", mark "*", opt convention, mark "<", sepBy1 "," component, mark ">"]

/-- A type without the marks behind it. -/
def typeCore : RuleBody :=
  oneOf [predefinedType, .rule .tupleType, .rule .functionPointer, qualifiedName]

/-- The rank of an array type. -/
def arrayRank : RuleBody := all [mark "[", many (mark ","), mark "]"]

/-- A type, by reference where it says so. -/
def type : RuleBody :=
  all [opt (.seq (keyword "scoped") (.ahead (oneOf [keyword "ref", .rule .simpleName]))),
    opt (.seq (keyword "ref") (opt (keyword "readonly"))), typeCore,
    many (oneOf [mark "?", mark "*", arrayRank])]

/-- What an operand of an expression may start with, as far as a question mark may stand before
it. -/
def operandStart : RuleBody :=
  oneOf [.terminal .identifier false, .terminal .number false, .terminal .literal false, mark "(",
    keywords ["new", "this", "base", "null", "true", "false", "default", "typeof", "sizeof",
      "throw", "checked", "unchecked", "delegate", "stackalloc"]]

/-- A type behind `is` or `as`, where a question mark may belong to the expression around it. -/
def typeInTest : RuleBody :=
  .seq typeCore
    (many (oneOf [.seq (mark "?") (.notAhead operandStart), mark "*", arrayRank]))

/-! ## Patterns -/

/-- A name that a pattern gives to what it has matched. -/
def designation : RuleBody :=
  .seq (.notAhead (keywords ["and", "or", "when", "not"])) (.terminal .identifier false)

/-- Patterns in parentheses or braces, each of which may be for a member. -/
def subpatterns : RuleBody :=
  oneOf [all [mark "(", listOf (.rule .subpattern), mark ")"],
    all [mark openBrace, listOf (.rule .subpattern), mark closeBrace]]

/-- A pattern for a member, or by position. -/
def subpattern : RuleBody :=
  .seq (opt (.seq (sepBy1 "." (.terminal .identifier false)) (mark ":"))) (.rule .pattern)

/-- What follows a pattern that is only a type. -/
def patternEnd : RuleBody :=
  .ahead (oneOf [
    marks [")", "]", closeBrace, ",", ";", ":", "=>", "&&", "||", "?", "==", "!=", "??", "&", "|",
      "^"],
    keywords ["and", "or", "when", "is", "as"], .terminal .finish false])

/-- The names of a deconstruction. -/
def deconstruction : RuleBody :=
  oneOf [designation, .rule .balanced]

/-- A pattern without connectives. -/
def patternPrimary : RuleBody := oneOf [
  .seq (marks ["<=", ">=", "<", ">"]) (.rule .arithmetic),
  all [mark "[", listOf (.rule .pattern), mark "]", opt (.rule .subpatterns), opt designation],
  .seq (mark "..") (opt (.rule .pattern)),
  .seq (keyword "var") deconstruction,
  all [.rule .subpatterns, opt (.rule .subpatterns), opt designation, patternEnd],
  all [.rule .typeInTest, oneOf [
    all [many1 (.rule .subpatterns), opt designation, patternEnd], designation, patternEnd]],
  .rule .arithmetic]

/-- A pattern or its negation. -/
def patternOperand : RuleBody :=
  oneOf [.seq (keyword "not") (.rule .patternOperand), .rule .patternPrimary]

/-- A pattern. -/
def pattern : RuleBody :=
  .seq (.rule .patternOperand) (many (.seq (keywords ["and", "or"]) (.rule .patternOperand)))

end TypedMvc.CSharp.Rules
