import TypedMvc.CSharp.Rules.Types

/-!
# Expressions

The grammar of expressions. Operators of all ranks stand in one flat chain of operands, since
nothing asks for the shape of an expression: only where it ends matters, and whether it is well
formed.
-/

namespace TypedMvc.CSharp.Rules

open Grammar

/-- Anything in balanced parentheses. -/
def balanced : RuleBody :=
  all [mark "(", many (oneOf [.rule .balanced, .terminal (.otherThan ["(", ")"]) false]), mark ")"]

/-! ## Arguments and initializers -/

/-- A declaration inside an expression. -/
def declarationExpression : RuleBody :=
  all [.rule .type, .terminal .identifier false, .ahead (marks [",", ")"])]

/-- One argument, by name or by reference where it says so. -/
def argument : RuleBody :=
  .node .construct (all [
    opt (.seq (.terminal .identifier false) (mark ":")),
    opt (keywords ["ref", "out", "in"]),
    oneOf [.rule .declarationExpression, .rule .expression]])

/-- Arguments in parentheses. -/
def argumentList : RuleBody :=
  .node .argumentList (all [mark "(", opt (sepBy1 "," (.rule .argument)), closing ")"])

/-- Arguments in brackets. -/
def bracketedArguments : RuleBody :=
  .node .construct (all [mark "[", opt (sepBy1 "," (.rule .argument)), closing "]"])

/-- The value that an initializer gives to a member. -/
def initializerValue : RuleBody := oneOf [.rule .initializer, .rule .expression]

/-- One element of an initializer. -/
def initializerElement : RuleBody := oneOf [
  all [.rule .bracketedArguments, mark "=", initializerValue],
  all [.terminal .identifier false, mark "=", initializerValue],
  .rule .initializer, .rule .expression]

/-- An initializer in braces. -/
def initializer : RuleBody :=
  .node .construct (all [mark openBrace, listOf (.rule .initializerElement), closing closeBrace])

/-! ## Functions and queries -/

/-- A parameter of a lambda expression. -/
def lambdaParameter : RuleBody := all [
  many (.rule .attributeList),
  many (keywords ["ref", "out", "in", "params", "this", "readonly"]),
  oneOf [.seq (.rule .type) (.terminal .identifier false), .terminal .identifier false],
  opt (.seq (mark "=") (.rule .expression))]

/-- The words in front of an anonymous function. -/
def functionWords : RuleBody :=
  .seq (many (.rule .attributeList)) (many (keywords ["static", "async"]))

/-- A test that a lambda expression starts here. -/
def lambdaHead : RuleBody := .ahead (oneOf [
  .seq (.terminal .identifier false) (mark "=>"),
  all [functionWords, .terminal .identifier false, mark "=>"],
  all [functionWords, .rule .balanced, mark "=>"],
  all [functionWords, .rule .type, .rule .balanced, mark "=>"]])

/-- A lambda expression. -/
def lambda : RuleBody :=
  .node .construct (all [.rule .lambdaHead, oneOf [
    all [functionWords, .terminal .identifier false, mark "=>"],
    all [functionWords, opt (.seq (.rule .type) (.ahead (mark "("))), mark "(",
      opt (sepBy1 "," lambdaParameter), mark ")", mark "=>"]],
    oneOf [.rule .block, .rule .expression]])

/-- The variable of a query and the word behind it. -/
def rangeVariable : RuleBody := oneOf [
  .seq (.terminal .identifier false) (keyword "in"),
  all [.rule .type, .terminal .identifier false, keyword "in"]]

/-- A clause in the body of a query. -/
def queryClause : RuleBody := oneOf [
  all [keyword "from", rangeVariable, .rule .expression],
  all [keyword "let", .terminal .identifier false, mark "=", .rule .expression],
  .seq (keyword "where") (.rule .expression),
  all [keyword "join", rangeVariable, .rule .expression, keyword "on", .rule .expression,
    keyword "equals", .rule .expression,
    opt (.seq (keyword "into") (.terminal .identifier false))],
  .seq (keyword "orderby")
    (sepBy1 "," (.seq (.rule .expression) (opt (keywords ["ascending", "descending"]))))]

/-- The clauses of a query and what it ends with. -/
def queryClauses : RuleBody := all [
  many queryClause,
  oneOf [.seq (keyword "select") (.rule .expression),
    all [keyword "group", .rule .expression, keyword "by", .rule .expression]],
  opt (all [keyword "into", .terminal .identifier false, .rule .queryClauses])]

/-- A query expression. -/
def query : RuleBody :=
  .node .construct (all [.ahead (.seq (keyword "from") rangeVariable), keyword "from",
    rangeVariable, .rule .expression, .rule .queryClauses])

/-! ## Primary expressions -/

/-- What follows type arguments inside an expression; without it the angle brackets compare. -/
def afterTypeArguments : RuleBody :=
  .ahead (oneOf [
    marks ["(", ")", "]", closeBrace, ":", ";", ",", ".", "?", "==", "!=", "|", "^", "&&", "||",
      "&", "[", ">", "=>", "??", openBrace, "!"],
    .terminal .finish false])

/-- A simple name inside an expression. -/
def nameInExpression : RuleBody :=
  .seq (.terminal .identifier true) (opt (.seq (.rule .typeArguments) afterTypeArguments))

/-- The creation of an object or an array. -/
def creation : RuleBody :=
  let dimensions := Grammar.many1 (oneOf [arrayRank, .rule .bracketedArguments])
  .seq (keyword "new") (oneOf [
    .rule .initializer,
    .seq arrayRank (.rule .initializer),
    .seq (.rule .argumentList) (opt (.rule .initializer)),
    all [typeCore, opt (.seq (mark "?") (.ahead (mark "["))), many (mark "*"), oneOf [
      .seq (.rule .argumentList) (opt (.rule .initializer)),
      .rule .initializer,
      .seq dimensions (opt (.rule .initializer))]]])

/-- An expression that operators may stand behind. -/
def primary : RuleBody := oneOf [
  .terminal .literal false,
  .terminal .number false,
  keywords ["true", "false", "null", "this", "base"],
  all [mark "(", sepBy1 "," (.rule .argument), closing ")"],
  all [keywords ["typeof", "sizeof"], mark "(", .rule .type, closing ")"],
  .seq (keyword "default") (opt (all [mark "(", .rule .type, closing ")"])),
  all [keywords ["checked", "unchecked"], mark "(", .rule .expression, closing ")"],
  .rule .creation,
  .seq (keyword "stackalloc") (oneOf [
    .seq arrayRank (.rule .initializer),
    all [typeCore, .rule .bracketedArguments, opt (.rule .initializer)]]),
  all [functionWords, keyword "delegate", opt (.rule .parameterList), .rule .block],
  all [mark "[", listOf (.seq (opt (mark "..")) (.rule .expression)), closing "]"],
  .seq predefinedType (.ahead (mark ".")),
  all [.terminal .identifier false, mark "::", nameInExpression],
  nameInExpression]

/-- A primary expression with the accesses and calls behind it. -/
def access : RuleBody :=
  .node .construct (.seq (.rule .primary) (many (oneOf [
    .seq (mark ".") nameInExpression,
    all [mark "?", mark ".", nameInExpression],
    .seq (mark "?") (.seq (.ahead (.terminal (.gluedMark "[") false)) (.rule .bracketedArguments)),
    .rule .bracketedArguments,
    .rule .argumentList,
    marks ["++", "--", "!"],
    .seq (mark "->") nameInExpression])))

/-! ## Operators -/

/-- A test that a type in parentheses converts what follows it. -/
def castAhead : RuleBody :=
  let start := oneOf [operandStart, marks ["!", "~"]]
  .ahead (oneOf [
    all [mark "(", predefinedType, many (oneOf [mark "?", mark "*", arrayRank]), mark ")",
      oneOf [start, marks ["-", "+", "&", "*", "^"]]],
    all [mark "(", .rule .type, mark ")", start]])

/-- What `await` may wait for. -/
def awaitable : RuleBody :=
  oneOf [.terminal .identifier false, mark "(", .terminal .literal false,
    keywords ["new", "this", "base", "typeof", "default"]]

/-- An expression with the operators in front of it. -/
def unary : RuleBody := oneOf [
  .seq (marks ["+", "-", "!", "~", "++", "--", "^", "&", "*"]) (.rule .unary),
  .seq (mark "..") (opt (.rule .unary)),
  all [keyword "await", .ahead awaitable, .rule .unary],
  .seq (keyword "ref") (.rule .unary),
  all [castAhead, mark "(", .rule .type, mark ")", .rule .unary],
  .rule .access]

/-- The operators between the operands of a sum, a product or a shift. -/
def arithmeticOperator : RuleBody := oneOf [
  marks ["+", "-", "*", "/", "%", "<<"],
  all [mark ">", .terminal (.gluedMark ">") false, opt (.terminal (.gluedMark ">") false)]]

/-- A chain of operands of arithmetic. -/
def arithmetic : RuleBody :=
  .seq (.rule .unary) (many (.seq arithmeticOperator (.rule .unary)))

/-- The operators between two operands. -/
def binaryOperator : RuleBody := oneOf [
  arithmeticOperator, marks ["||", "&&", "|", "^", "&", "==", "!=", "<=", ">=", "<", ">", "??"]]

/-- The arms of a switch expression. -/
def switchArms : RuleBody :=
  let arm := all [.rule .pattern, opt (.seq (keyword "when") (.rule .expression)), mark "=>",
    .rule .expression]
  .node .construct (all [mark openBrace, listOf arm, closing closeBrace])

/-- An expression that throws. -/
def throwing : RuleBody := .seq (keyword "throw") (.rule .expression)

/-- A chain of operands with the operators between them. -/
def operand : RuleBody :=
  .seq (.rule .unary) (many (oneOf [
    .seq binaryOperator (oneOf [throwing, .rule .lambda, .rule .unary]),
    .seq (mark "..") (opt (.rule .unary)),
    .seq (keyword "is") (.rule .pattern),
    .seq (keyword "as") (.rule .typeInTest),
    .seq (keyword "switch") (.rule .switchArms),
    .seq (keyword "with") (.rule .initializer)]))

/-- The operators that assign. -/
def assignmentOperator : RuleBody := oneOf [
  marks ["=", "+=", "-=", "*=", "/=", "%=", "&=", "|=", "^=", "<<=", "??="],
  all [mark ">", opt (.terminal (.gluedMark ">") false), .terminal (.gluedMark ">=") false]]

/-- An expression. -/
def expression : RuleBody := oneOf [
  .rule .query,
  .rule .lambda,
  throwing,
  all [.rule .operand,
    opt (all [mark "?", .rule .expression, mark ":", .rule .expression]),
    opt (.seq assignmentOperator (.rule .expression))]]

end TypedMvc.CSharp.Rules
