import TypedMvc.CSharp.Rules.Statements
import TypedMvc.Naming.Keyword

/-!
# Declarations

The grammar of source files: namespaces, types and their members. Here the nodes matter that the
symbol table reads, so names, types, modifiers and attributes have nodes of their own.
-/

namespace TypedMvc.CSharp.Rules

open Grammar

/-! ## What stands in front of a declaration -/

/-- One attribute. -/
def attributeUse : RuleBody :=
  let argument := Grammar.seq
    (opt (.seq (.terminal .identifier false) (marks [":", "="]))) (.rule .expression)
  .node .attribute (.seq (.role .name (.node .name (.rule .name)))
    (opt (all [mark "(", opt (sepBy1 "," argument), mark ")"])))

/-- What a list of attributes is for. -/
def attributeTarget : RuleBody :=
  .seq (oneOf [.terminal .identifier false, keywords ["return", "event"]]) (mark ":")

/-- Attributes in one pair of brackets. -/
def attributeList : RuleBody :=
  .node .attributeList (all [mark "[", opt attributeTarget, sepBy1 "," (.rule .attribute),
    opt (mark ","), mark "]"])

/-- The modifiers that are reserved words. -/
def reservedModifier : RuleBody := keywords [
  "abstract", "const", "extern", "fixed", "internal", "new", "override", "private", "protected",
  "public", "readonly", "sealed", "static", "unsafe", "virtual", "volatile"]

/-- What shows that a word in front is a modifier and not a type or a name. -/
def afterContextualModifier : RuleBody := .ahead (oneOf [
  keywords TypedMvc.Naming.keywords,
  .seq (.terminal .identifier false) (.notAhead (marks ["(", ";", "=", openBrace, ",", "=>"])),
  .seq (.rule .tupleType) (.terminal .identifier false)])

/-- A modifier. -/
def modifier : RuleBody := .node .modifier (oneOf [
  reservedModifier,
  .seq (keywords ["async", "file", "partial", "required"]) afterContextualModifier])

/-- The modifiers of a declaration. -/
def modifiers : RuleBody := many modifier

/-- The attributes and modifiers of a declaration. -/
def declarationHead : RuleBody := .seq (many (.rule .attributeList)) (.rule .modifiers)

/-! ## Type parameters, bases and parameters -/

/-- Type parameters in angle brackets. -/
def typeParameterList : RuleBody :=
  let parameter := Grammar.node .typeParameter (all [many (.rule .attributeList),
    opt (keywords ["in", "out"]), identifier])
  .node .typeParameterList (all [mark "<", sepBy1 "," parameter, mark ">"])

/-- What a type parameter is constrained to. -/
def constraint : RuleBody :=
  let bound := oneOf [
    .seq (keyword "class") (opt (mark "?")), keywords ["struct", "default"],
    all [keyword "new", mark "(", mark ")"],
    all [keyword "allows", keyword "ref", keyword "struct"], .rule .type]
  .node .construct (all [keyword "where", .terminal .identifier false, mark ":",
    sepBy1 "," bound])

/-- The bases of a type. -/
def baseList : RuleBody :=
  .node .baseList (.seq (mark ":")
    (sepBy1 "," (.seq (.node .name (.rule .type)) (opt (.rule .argumentList)))))

/-- A parameter. -/
def parameter : RuleBody :=
  .node .parameter (all [many (.rule .attributeList),
    many (keywords ["this", "ref", "out", "in", "readonly"]),
    opt (all [keyword "scoped", .ahead (oneOf [keyword "ref",
      .seq (.rule .type) (.terminal .identifier false)])]),
    many (keywords ["ref", "readonly"]),
    .role .type (.node .name (.rule .type)), .role .name (.node .name identifier),
    opt (.seq (mark "=") (.rule .expression))])

/-- The last parameter of a list of any length, which takes all further arguments. -/
def parameterArray : RuleBody := all [many (.rule .attributeList), keyword "params",
  opt (.seq (keyword "scoped") (.ahead (.seq (.rule .type) (.terminal .identifier false)))),
  .rule .type, .terminal .identifier false]

/-- Parameters between two marks. -/
def parametersWithin (opening : String) (ending : RuleBody) : RuleBody :=
  all [mark opening,
    opt (sepBy1 "," (oneOf [parameterArray, keyword "__arglist", .rule .parameter])), ending]

/-- Parameters in parentheses. -/
def parameterList : RuleBody := .node .parameterList (parametersWithin "(" (closing ")"))

/-! ## Members -/

/-- An expression behind an arrow. -/
def arrowBody : RuleBody := all [mark "=>", .rule .expression, closing ";"]

/-- The body of a function, or none. -/
def functionBody : RuleBody := oneOf [.rule .block, arrowBody, closing ";"]

/-- The interface that an explicit implementation belongs to, with the dot behind it. -/
def explicitInterface : RuleBody :=
  .seq (opt (.seq (.terminal .identifier false) (mark "::")))
    (many (.seq (.rule .simpleName) (mark ".")))

/-- The accessors of a property, an indexer or an event. -/
def accessorList : RuleBody :=
  let accessor := Grammar.node .construct (all [declarationHead,
    keywords ["get", "set", "init", "add", "remove"], .rule .functionBody])
  .node .construct (all [mark openBrace, many accessor, closing closeBrace])

/-- A method. -/
def methodDeclaration : RuleBody :=
  .node .methodDeclaration (all [declarationHead, .role .returns (.node .name (.rule .type)),
    .rule .explicitInterface, .role .name (.node .name (.terminal .identifier false)),
    opt (.rule .typeParameterList), .rule .parameterList, many (.rule .constraint),
    .rule .functionBody])

/-- A constructor. -/
def constructorDeclaration : RuleBody :=
  .node .construct (all [declarationHead, .terminal .identifier false, .rule .parameterList,
    opt (all [mark ":", keywords ["base", "this"], .rule .argumentList]), .rule .functionBody])

/-- A destructor. -/
def destructorDeclaration : RuleBody :=
  .node .construct (all [declarationHead, mark "~", .terminal .identifier false,
    .rule .parameterList, .rule .functionBody])

/-- The operators that a type may define. -/
def definableOperator : RuleBody := oneOf [
  all [mark ">", .terminal (.gluedMark ">") false, opt (.terminal (.gluedMark ">") false)],
  marks ["+", "-", "!", "~", "++", "--", "*", "/", "%", "&", "|", "^", "<<", "==", "!=", "<",
    ">", "<=", ">="], keywords ["true", "false"]]

/-- An operator. -/
def operatorDeclaration : RuleBody :=
  .node .construct (all [declarationHead, .rule .type, .rule .explicitInterface,
    keyword "operator", opt (keyword "checked"), definableOperator, .rule .parameterList,
    .rule .functionBody])

/-- A conversion between types. -/
def conversionDeclaration : RuleBody :=
  .node .construct (all [declarationHead, keywords ["implicit", "explicit"],
    .rule .explicitInterface, keyword "operator", opt (keyword "checked"), .rule .type,
    .rule .parameterList, .rule .functionBody])

/-- An indexer. -/
def indexerDeclaration : RuleBody :=
  .node .construct (all [declarationHead, .rule .type, .rule .explicitInterface, keyword "this",
    parametersWithin "[" (mark "]"), oneOf [.rule .accessorList, arrowBody]])

/-- A property. -/
def propertyDeclaration : RuleBody :=
  .node .construct (all [declarationHead, .rule .type, .rule .explicitInterface,
    .terminal .identifier false, oneOf [
      .seq (.rule .accessorList) (opt (all [mark "=", initializerValue, closing ";"])),
      arrowBody]])

/-- An event. -/
def eventDeclaration : RuleBody :=
  .node .construct (all [declarationHead, keyword "event", oneOf [
    all [.rule .type, .rule .explicitInterface, .terminal .identifier false,
      .rule .accessorList],
    .seq (.rule .variableDeclaration) (closing ";")]])

/-- A field. -/
def fieldDeclaration : RuleBody :=
  .node .construct (all [declarationHead, .rule .variableDeclaration, closing ";"])

/-- A delegate. -/
def delegateDeclaration : RuleBody :=
  .node .construct (all [declarationHead, keyword "delegate", .rule .type,
    .terminal .identifier false, opt (.rule .typeParameterList), .rule .parameterList,
    many (.rule .constraint), closing ";"])

/-! ## Types and namespaces -/

/-- What may stand between the name of a type and its body. -/
def typeClauses : RuleBody :=
  many (oneOf [.rule .typeParameterList, .rule .parameterList, .rule .baseList,
    .rule .constraint])

/-- The body of a type, or none. -/
def typeBody : RuleBody :=
  oneOf [.seq (.role .body (.rule .declarationList)) (opt (mark ";")), mark ";"]

/-- A type that one keyword introduces. -/
def typeWith (kind : TypeKind) (word : RuleBody) : RuleBody :=
  .node (.typeDeclaration kind) (all [declarationHead, word, declaredName, typeClauses, typeBody])

/-- The words in front of the name of a record. -/
def recordWords : RuleBody := .seq (keyword "record") (opt (keywords ["class", "struct"]))

/-- A member of an enumeration. -/
def enumMember : RuleBody := oneOf [
  .rule .conditionalMembers,
  .node .construct (all [many (.rule .attributeList), .terminal .identifier false,
    opt (.seq (mark "=") (.rule .expression)), opt (mark ",")])]

/-- The members of an enumeration in braces. -/
def enumBody : RuleBody :=
  .node .construct (all [mark openBrace, many (.rule .enumMember), mark closeBrace])

/-- The declaration of a type. -/
def typeDeclaration : RuleBody := oneOf [
  typeWith .classType (keyword "class"),
  typeWith .structType (.seq (many (oneOf [keyword "ref", modifier])) (keyword "struct")),
  typeWith .interfaceType (keyword "interface"),
  .node (.typeDeclaration .enumType) (all [declarationHead, keyword "enum", declaredName,
    opt (.rule .baseList), .role .body enumBody, opt (mark ";")]),
  .node (.typeDeclaration .recordType) (all [declarationHead,
    .ahead (all [recordWords, .terminal .identifier false,
      oneOf [marks ["(", "<", openBrace, ":", ";"], keyword "where"]]),
    recordWords, declaredName, typeClauses, typeBody])]

/-- Declarations in braces. -/
def declarationList : RuleBody :=
  .node .declarationList (all [mark openBrace, many (.rule .declaration), mark closeBrace])

/-- A namespace with a body. -/
def blockNamespace : RuleBody :=
  .node .blockNamespace (all [keyword "namespace", .role .name (.node .name (.rule .name)),
    .role .body (.rule .declarationList), opt (mark ";")])

/-- A namespace for the rest of the file. -/
def fileNamespace : RuleBody :=
  .node .fileNamespace (all [keyword "namespace", .role .name (.node .name (.rule .name)),
    mark ";"])

/-- A using directive. -/
def usingDirective : RuleBody :=
  .node .construct (all [opt (keyword "global"), keyword "using", opt (keyword "unsafe"), oneOf [
    all [.terminal .identifier false, mark "=", .rule .type],
    .seq (opt (keyword "static")) (.rule .type)], closing ";"])

/-- A declaration inside a namespace or a type. -/
def declaration : RuleBody := oneOf [
  .rule .conditionalDeclarations,
  .rule .usingDirective,
  .rule .typeDeclaration,
  .rule .delegateDeclaration,
  eventDeclaration,
  .rule .blockNamespace,
  destructorDeclaration,
  conversionDeclaration,
  methodDeclaration,
  operatorDeclaration,
  indexerDeclaration,
  propertyDeclaration,
  constructorDeclaration,
  fieldDeclaration]

/-- Attributes of the whole program. -/
def globalAttributes : RuleBody :=
  .node .construct (all [mark "[", keywords ["assembly", "module"], mark ":",
    sepBy1 "," (.rule .attribute), opt (mark ","), mark "]"])

/-- An alias for the assemblies that the program refers to. -/
def externAlias : RuleBody :=
  .node .construct (all [keyword "extern", keyword "alias", .terminal .identifier false,
    closing ";"])

/-- An item of a source file. -/
def topLevelItem : RuleBody := oneOf [
  .rule .conditionalItems,
  externAlias,
  .rule .usingDirective,
  globalAttributes,
  fileNamespace,
  .rule .blockNamespace,
  .rule .typeDeclaration,
  .rule .delegateDeclaration,
  .rule .statement]

/-- A source file. -/
def compilationUnit : RuleBody :=
  .node .compilationUnit (.seq (many (.rule .topLevelItem)) (.terminal .finish false))

end TypedMvc.CSharp.Rules
