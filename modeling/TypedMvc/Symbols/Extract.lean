import TypedMvc.Symbols.SimpleName
import TypedMvc.Symbols.Type

/-!
# The types of a syntax tree

The declarations of a source file in the order of the text, each in front of those nested in it.
Types are looked for at the top, in namespaces, in lists of declarations, in error nodes and in
the bodies of types. A namespace for the rest of the file holds the declarations behind it, but
a namespace with a body is inside it only if it stands inside it.
-/

namespace TypedMvc.Symbols

open CSharp

/-- A file whose tree is read. -/
structure FileContext where
  /-- The path of the file. -/
  path : String
  /-- The text of the file. -/
  source : Source

namespace FileContext

/-- The text that a node covers. -/
def textOf (context : FileContext) (node : Node) : String := context.source.slice node.span

/-- The modifiers of a declaration. -/
def modifiersOf (context : FileContext) (node : Node) : List String :=
  (node.children.filter fun c => c.label == .modifier).map fun c => Unicode.trim (context.textOf c)

/-- The names of the attributes of a declaration. -/
def attributesOf (context : FileContext) (node : Node) : List String :=
  let lists := node.children.filter fun c => c.label == .attributeList
  let uses := lists.flatMap fun list => list.children.filter fun c => c.label == .attribute
  uses.filterMap fun node =>
    (node.child? .name).map fun name => attributeName (context.textOf name)

/-- Whether a node behind the colon of a type can be a base. -/
def isBase (node : Node) : Bool :=
  match node.label with
  | .token _ | .argumentList => false
  | _ => true

/-- The simple names in a list of bases. -/
def basesIn (context : FileContext) (list : Node) : List String :=
  ((list.children.filter isBase).map fun c => simpleName (context.textOf c)).filter (· ≠ "")

/-- The last child with a label. -/
def lastChild? (node : Node) (label : Label) : Option Node :=
  (node.children.filter fun c => c.label == label).getLast?

/-- The bases of a type. -/
def basesOf (context : FileContext) (node : Node) : List String :=
  match lastChild? node .baseList with
  | some list => context.basesIn list
  | none => []

/-- The number of type parameters of a type. -/
def genericArityOf (node : Node) : Nat :=
  match lastChild? node .typeParameterList with
  | some list => list.children.countP fun c => c.label == .typeParameter
  | none => 0

/-- The parameters in a parameter list, those that have a name. -/
def parametersIn (context : FileContext) (list : Node) : List ParameterSymbol :=
  (list.children.filter fun c => c.label == .parameter).filterMap fun parameter =>
    (parameter.child? .name).map fun name =>
      ⟨context.textOf name, ((parameter.child? .type).map context.textOf).getD ""⟩

/-- The method that a declaration declares, if it has a name. -/
def methodOf? (context : FileContext) (node : Node) : Option MethodSymbol :=
  (node.child? .name).map fun name =>
    { name := methodName (context.textOf name)
      modifiers := context.modifiersOf node
      attributes := context.attributesOf node
      parameters :=
        match lastChild? node .parameterList with
        | some list => context.parametersIn list
        | none => []
      returnType := (node.child? .returns).map context.textOf
      isGeneric := (lastChild? node .typeParameterList).isSome
      line := node.span.line }

/-- The methods declared directly in the body of a type. -/
def methodsOf (context : FileContext) (node : Node) : List MethodSymbol :=
  match node.child? .body with
  | some body =>
    (body.children.filter fun c => c.label == .methodDeclaration).filterMap context.methodOf?
  | none => []

/-- The declaration of a type under its name. -/
def symbolOf (context : FileContext) (node : Node) (kind : TypeKind) (name : String)
    (scope containing : Option String) : TypeSymbol :=
  { name
    namespaceName := scope
    kind
    containingType := containing
    modifiers := context.modifiersOf node
    attributes := context.attributesOf node
    baseTypes := context.basesOf node
    genericArity := genericArityOf node
    methods := context.methodsOf node
    file := context.path
    line := node.span.line }

/-- The namespace that a name has inside another one. -/
def joinNamespace (outer : Option String) (inner : String) : String :=
  match outer with
  | some outer => if outer = "" then inner else outer ++ "." ++ inner
  | none => inner

/-- The full name of the namespace that a node declares. -/
def namespaceOf? (context : FileContext) (outer : Option String) (node : Node) : Option String :=
  (node.child? .name).map fun name =>
    joinNamespace outer (Unicode.trim (context.textOf name))

mutual
/-- The types among the children of a node, in a namespace and inside a type. -/
def typesBelow (context : FileContext) (scope containing : Option String) :
    Node → List TypeSymbol
  | .mk _ _ _ _ children => context.typesAmong scope scope containing children

/-- The types among siblings. `outer` is the namespace of their parent, `scope` the one that
holds from here on. -/
def typesAmong (context : FileContext) (outer scope containing : Option String) :
    List Node → List TypeSymbol
  | [] => []
  | node :: rest =>
    match node.label with
    | .blockNamespace =>
      match context.namespaceOf? outer node with
      | some inner =>
        context.typesBelow (some inner) none node ++
          context.typesAmong outer scope containing rest
      | none => context.typesAmong outer scope containing rest
    | .fileNamespace =>
      match context.namespaceOf? outer node with
      | some inner =>
        context.typesBelow (some inner) none node ++
          context.typesAmong outer (some inner) containing rest
      | none => context.typesAmong outer scope containing rest
    | .typeDeclaration kind =>
      context.typesOf kind scope containing node ++
        context.typesAmong outer scope containing rest
    | .declarationList | .error =>
      context.typesBelow scope containing node ++
        context.typesAmong outer scope containing rest
    | _ => context.typesAmong outer scope containing rest

/-- The type that a node declares, if it has a name, and those nested in it. -/
def typesOf (context : FileContext) (kind : TypeKind) (scope containing : Option String) :
    Node → List TypeSymbol
  | .mk label role span supplied children =>
    let node := Node.mk label role span supplied children
    match node.child? .name with
    | some nameNode =>
      let name := context.textOf nameNode
      context.symbolOf node kind name scope containing ::
        context.nestedInBody scope name children
    | none => []

/-- The types in the first body among the parts of a type. -/
def nestedInBody (context : FileContext) (scope : Option String) (container : String) :
    List Node → List TypeSymbol
  | [] => []
  | node :: rest =>
    if node.role = some .body then context.nestedIn scope container node
    else context.nestedInBody scope container rest

/-- The types declared directly in a body. -/
def nestedIn (context : FileContext) (scope : Option String) (container : String) :
    Node → List TypeSymbol
  | .mk _ _ _ _ children => context.nestedAmong scope container children

/-- The types among the members of a body. -/
def nestedAmong (context : FileContext) (scope : Option String) (container : String) :
    List Node → List TypeSymbol
  | [] => []
  | node :: rest =>
    match node.label with
    | .typeDeclaration kind =>
      context.typesOf kind scope (some container) node ++
        context.nestedAmong scope container rest
    | _ => context.nestedAmong scope container rest
end

/-- The types of a whole file. -/
def typesIn (context : FileContext) (root : Node) : List TypeSymbol :=
  context.typesBelow none none root

end FileContext

end TypedMvc.Symbols
