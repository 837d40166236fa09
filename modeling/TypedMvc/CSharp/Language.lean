import TypedMvc.CSharp.Rules.Declarations

/-!
# The language of source files

The rules put together under their names.
-/

namespace TypedMvc.CSharp

/-- The grammar that each rule stands for. -/
def grammarOf : Rule → RuleBody
  | .compilationUnit => Rules.compilationUnit
  | .topLevelItem => Rules.topLevelItem
  | .declaration => Rules.declaration
  | .declarationList => Rules.declarationList
  | .usingDirective => Rules.usingDirective
  | .typeDeclaration => Rules.typeDeclaration
  | .enumMember => Rules.enumMember
  | .delegateDeclaration => Rules.delegateDeclaration
  | .blockNamespace => Rules.blockNamespace
  | .attributeList => Rules.attributeList
  | .attribute => Rules.attributeUse
  | .modifiers => Rules.modifiers
  | .typeParameterList => Rules.typeParameterList
  | .constraint => Rules.constraint
  | .baseList => Rules.baseList
  | .parameterList => Rules.parameterList
  | .parameter => Rules.parameter
  | .accessorList => Rules.accessorList
  | .functionBody => Rules.functionBody
  | .explicitInterface => Rules.explicitInterface
  | .type => Rules.type
  | .typeInTest => Rules.typeInTest
  | .tupleType => Rules.tupleType
  | .functionPointer => Rules.functionPointer
  | .typeArguments => Rules.typeArguments
  | .simpleName => Rules.simpleName
  | .name => Rules.qualifiedName
  | .pattern => Rules.pattern
  | .patternOperand => Rules.patternOperand
  | .patternPrimary => Rules.patternPrimary
  | .subpattern => Rules.subpattern
  | .subpatterns => Rules.subpatterns
  | .expression => Rules.expression
  | .operand => Rules.operand
  | .arithmetic => Rules.arithmetic
  | .unary => Rules.unary
  | .access => Rules.access
  | .primary => Rules.primary
  | .lambda => Rules.lambda
  | .lambdaHead => Rules.lambdaHead
  | .query => Rules.query
  | .queryClauses => Rules.queryClauses
  | .creation => Rules.creation
  | .initializer => Rules.initializer
  | .initializerElement => Rules.initializerElement
  | .argument => Rules.argument
  | .argumentList => Rules.argumentList
  | .bracketedArguments => Rules.bracketedArguments
  | .declarationExpression => Rules.declarationExpression
  | .balanced => Rules.balanced
  | .switchArms => Rules.switchArms
  | .statement => Rules.statement
  | .block => Rules.block
  | .variableDeclaration => Rules.variableDeclaration
  | .localFunction => Rules.localFunction
  | .localDeclaration => Rules.localDeclaration
  | .conditionalDeclarations => Rules.conditional (.rule .declaration)
  | .conditionalItems => Rules.conditional (.rule .topLevelItem)
  | .conditionalStatements => Rules.conditional (.rule .statement)
  | .conditionalMembers => Rules.conditional (.rule .enumMember)

/-- The language of source files. -/
def csharp : Language Rule := ⟨grammarOf, Naming.isKeyword⟩

end TypedMvc.CSharp
