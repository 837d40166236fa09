import TypedMvc.CSharp.Rules.Expressions

/-!
# Statements

The grammar of statements. A semicolon that is missing at the end of one may be supplied.
-/

namespace TypedMvc.CSharp.Rules

open Grammar

/-- The content of a conditional directive: every branch holds items of one sort. -/
def conditional (item : RuleBody) : RuleBody :=
  .node .construct (all [
    .terminal (.directive "if") false, many item,
    many (.seq (.terminal (.directive "elif") false) (many item)),
    opt (.seq (.terminal (.directive "else") false) (many item)),
    .terminal (.directive "endif") false])

/-- Statements in braces. -/
def block : RuleBody :=
  .node .construct (all [mark openBrace, many (.rule .statement), closing closeBrace])

/-- A variable with its initial value. -/
def declarator : RuleBody :=
  .node .construct (all [.terminal .identifier false, opt (.rule .bracketedArguments),
    opt (.seq (mark "=") initializerValue)])

/-- A type with the variables declared to be of it. -/
def variableDeclaration : RuleBody :=
  .node .construct (.seq (.node .name (.rule .type)) (sepBy1 "," declarator))

/-- A declaration of local variables. -/
def localDeclaration : RuleBody :=
  .node .construct (all [opt (keyword "await"), opt (keyword "using"), .rule .modifiers,
    .ahead (.seq (.rule .type) (.terminal .identifier false)), .rule .variableDeclaration,
    closing ";"])

/-- A function inside a block. -/
def localFunction : RuleBody :=
  .node .construct (all [many (.rule .attributeList), .rule .modifiers,
    .ahead (all [.rule .type, .terminal .identifier false, opt (.rule .typeParameterList),
      mark "("]),
    .node .name (.rule .type), .node .name (.terminal .identifier false),
    opt (.rule .typeParameterList), .rule .parameterList, many (.rule .constraint),
    .rule .functionBody])

/-- An expression in parentheses, as the head of a statement. -/
def condition : RuleBody := all [mark "(", .rule .expression, mark ")"]

/-- A section of a switch statement. -/
def switchSection : RuleBody :=
  let label := oneOf [
    all [keyword "case", .rule .pattern, opt (.seq (keyword "when") (.rule .expression)),
      mark ":"],
    .seq (keyword "default") (mark ":")]
  .node .construct (.seq (many1 label) (many (.rule .statement)))

/-- The head of a for loop. -/
def forHead : RuleBody := all [mark "(",
  opt (oneOf [
    .seq (.ahead (.seq (.rule .type) (.terminal .identifier false))) (.rule .variableDeclaration),
    sepBy1 "," (.rule .expression)]),
  mark ";", opt (.rule .expression), mark ";", opt (sepBy1 "," (.rule .expression)), mark ")"]

/-- The head of a foreach loop. -/
def foreachHead : RuleBody := all [mark "(",
  oneOf [all [.rule .type, .terminal .identifier false, keyword "in"],
    .seq (.rule .expression) (keyword "in")],
  .rule .expression, mark ")"]

/-- What a using statement disposes of. -/
def resourceHead : RuleBody := all [mark "(",
  oneOf [
    .seq (.ahead (.seq (.rule .type) (.terminal .identifier false))) (.rule .variableDeclaration),
    .rule .expression],
  mark ")"]

/-- A handler of exceptions. -/
def catchClause : RuleBody :=
  .node .construct (all [keyword "catch",
    opt (all [mark "(", .rule .type, opt (.terminal .identifier false), mark ")"]),
    opt (.seq (keyword "when") condition), .rule .block])

/-- Statements that a keyword introduces. -/
def keywordStatement : RuleBody := .node .construct (oneOf [
  all [keyword "if", condition, .rule .statement,
    opt (.seq (keyword "else") (.rule .statement))],
  all [keyword "while", condition, .rule .statement],
  all [keyword "do", .rule .statement, keyword "while", condition, closing ";"],
  all [keyword "for", forHead, .rule .statement],
  all [opt (keyword "await"), keyword "foreach", foreachHead, .rule .statement],
  all [keyword "switch", mark "(", sepBy1 "," (.rule .argument), mark ")", mark openBrace,
    many switchSection, closing closeBrace],
  all [keyword "return", opt (.rule .expression), closing ";"],
  .seq (keywords ["break", "continue"]) (closing ";"),
  all [keyword "goto", oneOf [.seq (keyword "case") (.rule .expression), keyword "default",
    .terminal .identifier false], closing ";"],
  all [keyword "throw", opt (.rule .expression), closing ";"],
  all [keyword "try", .rule .block, many catchClause,
    opt (.seq (keyword "finally") (.rule .block))],
  all [keyword "lock", condition, .rule .statement],
  all [opt (keyword "await"), keyword "using", resourceHead, .rule .statement],
  all [keyword "fixed", resourceHead, .rule .statement],
  .seq (keywords ["checked", "unchecked", "unsafe"]) (.rule .block),
  all [keyword "yield", oneOf [.seq (keyword "return") (.rule .expression), keyword "break"],
    closing ";"]])

/-- An expression as a statement. A name alone is none. -/
def expressionStatement : RuleBody :=
  .node .construct (all [.notAhead (.seq (.rule .name) (mark ";")), .rule .expression,
    closing ";"])

/-- A statement. -/
def statement : RuleBody := oneOf [
  .rule .block,
  .node .construct (mark ";"),
  .rule .conditionalStatements,
  keywordStatement,
  .node .construct (all [.terminal .identifier false, mark ":", .rule .statement]),
  .rule .localFunction,
  .rule .localDeclaration,
  expressionStatement]

end TypedMvc.CSharp.Rules
