import TypedMvc.CSharp.Grammar

/-!
# The rules of the grammar by name

The names under which the parts of the grammar refer to each other, one for each construct that
holds constructs of its own sort or is used in several places.
-/

namespace TypedMvc.CSharp

/-- The named constructs of the grammar. -/
inductive Rule where
  | compilationUnit | topLevelItem | declaration | declarationList | usingDirective
  | typeDeclaration | enumMember | delegateDeclaration | blockNamespace
  | attributeList | attribute | modifiers | typeParameterList | constraint | baseList
  | parameterList | parameter | accessorList | functionBody | explicitInterface
  | type | typeInTest | tupleType | functionPointer | typeArguments | simpleName | name
  | pattern | patternOperand | patternPrimary | subpattern | subpatterns
  | expression | operand | arithmetic | unary | access | primary | lambda | lambdaHead
  | query | queryClauses | creation | initializer | initializerElement | argument | argumentList
  | bracketedArguments | declarationExpression | balanced | switchArms
  | statement | block | variableDeclaration | localFunction | localDeclaration
  | conditionalDeclarations | conditionalItems | conditionalStatements | conditionalMembers
  deriving Repr, DecidableEq

/-- What a rule stands for: a grammar that refers to rules. -/
abbrev RuleBody := Grammar Rule

/-- The brace that opens a body. -/
def openBrace : String := "\x7b"

/-- The brace that closes a body. -/
def closeBrace : String := "\x7d"

end TypedMvc.CSharp
