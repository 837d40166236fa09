/-!
# Declarations

The tree of declarations that is to be written as source text. Nodes are made by constructors and
extended by functions that return a new node, so a finished tree never changes.
-/

namespace TypedMvc.Declaration

/-- The kinds of declaration. -/
inductive Kind where
  /-- A namespace. -/
  | namespaceKind
  /-- A class. -/
  | classKind
  /-- A field. -/
  | fieldKind
  /-- A property that can only be read. -/
  | propertyKind
  deriving Repr, DecidableEq, Inhabited

/-- The modifiers of a declaration. -/
inductive Modifier where
  /-- Visible everywhere. -/
  | publicModifier
  /-- Belongs to the type, not to its instances. -/
  | staticModifier
  /-- Set once. -/
  | readOnlyModifier
  /-- Known when the code is compiled. -/
  | constModifier
  /-- One part of several. -/
  | partialModifier
  deriving Repr, DecidableEq, Inhabited

/-- The keyword of a modifier. -/
def Modifier.keyword : Modifier → String
  | .publicModifier => "public"
  | .staticModifier => "static"
  | .readOnlyModifier => "readonly"
  | .constModifier => "const"
  | .partialModifier => "partial"

/-- The value of a field, or what a property returns. -/
inductive Expr where
  /-- A text, not escaped. -/
  | text (value : String)
  /-- A new instance of a type. -/
  | create (type : String)
  /-- Another member. -/
  | member (name : String)
  deriving Repr, DecidableEq, Inhabited

/-- An attribute of a declaration. -/
structure Attribute where
  /-- The name of the attribute. -/
  name : String
  /-- The arguments in order. -/
  arguments : List Expr := []
  deriving Repr, DecidableEq, Inhabited

/-- What a declaration declares besides its name. -/
inductive Content where
  /-- A namespace. -/
  | ofNamespace
  /-- A class. -/
  | ofClass
  /-- A field with its type and its value. -/
  | ofField (type : String) (value : Expr)
  /-- A property with its type and what it returns. -/
  | ofProperty (type : String) (getter : Expr)
  deriving Repr, DecidableEq, Inhabited

/-- A declaration. -/
inductive Node where
  /-- A declaration from what it declares, its name, its modifiers and attributes in order, and
  the declarations inside it. -/
  | mk (content : Content) (name : String) (modifiers : List Modifier)
    (attributes : List Attribute) (children : List Node)
  deriving Repr, Inhabited

namespace Node

/-! ## Constructors -/

/-- A namespace. The empty name is that of the global one. -/
def ofNamespace (name : String) : Node := .mk .ofNamespace name [] [] []

/-- A class. -/
def ofClass (name : String) : Node := .mk .ofClass name [] [] []

/-- A field. -/
def ofField (name type : String) (value : Expr) : Node := .mk (.ofField type value) name [] [] []

/-- A field that holds a text. -/
def ofText (name value : String) : Node := ofField name "string" (.text value)

/-- A property. -/
def ofProperty (name type : String) (getter : Expr) : Node :=
  .mk (.ofProperty type getter) name [] [] []

/-! ## Parts -/

/-- What the node declares. -/
def content : Node → Content
  | .mk content _ _ _ _ => content

/-- The name that is declared. -/
def name : Node → String
  | .mk _ name _ _ _ => name

/-- The modifiers in order. -/
def modifiers : Node → List Modifier
  | .mk _ _ modifiers _ _ => modifiers

/-- The attributes in order. -/
def attributes : Node → List Attribute
  | .mk _ _ _ attributes _ => attributes

/-- The declarations inside the node in order. -/
def children : Node → List Node
  | .mk _ _ _ _ children => children

/-- The kind of declaration. -/
def kind (node : Node) : Kind :=
  match node.content with
  | .ofNamespace => .namespaceKind
  | .ofClass => .classKind
  | .ofField _ _ => .fieldKind
  | .ofProperty _ _ => .propertyKind

/-- The type of a field or a property. -/
def typeName? (node : Node) : Option String :=
  match node.content with
  | .ofField type _ | .ofProperty type _ => some type
  | _ => none

/-- The value of a field, or what a property returns. -/
def value? (node : Node) : Option Expr :=
  match node.content with
  | .ofField _ value | .ofProperty _ value => some value
  | _ => none

/-- The text that a field holds. -/
def text? (node : Node) : Option String :=
  match node.value? with
  | some (.text s) => some s
  | _ => none

/-! ## Extending a node -/

/-- The modifiers with more of them behind; one that is there already is not added again. -/
def addModifiers (known : List Modifier) : List Modifier → List Modifier
  | [] => known
  | m :: rest => addModifiers (if m ∈ known then known else known ++ [m]) rest

/-- The node with more modifiers. -/
def withModifiers (node : Node) (more : List Modifier) : Node :=
  .mk node.content node.name (addModifiers node.modifiers more) node.attributes node.children

/-- The node with more attributes. -/
def withAttributes (node : Node) (more : List Attribute) : Node :=
  .mk node.content node.name node.modifiers (node.attributes ++ more) node.children

/-- The node with more declarations inside it. -/
def withChildren (node : Node) (more : List Node) : Node :=
  .mk node.content node.name node.modifiers node.attributes (node.children ++ more)

/-- The node with one more declaration inside it. -/
def withChild (node child : Node) : Node := node.withChildren [child]

/-! ## Looking things up -/

/-- Whether the node has a modifier. -/
def hasModifier (node : Node) (modifier : Modifier) : Bool := node.modifiers.contains modifier

/-- Whether the node has an attribute of a name. -/
def hasAttribute (node : Node) (name : String) : Bool :=
  node.attributes.any fun a => a.name == name

/-- The first declaration of a name directly inside the node. -/
def child? (node : Node) (name : String) : Option Node :=
  node.children.find? fun c => c.name == name

/-- The declarations of a kind directly inside the node. -/
def childrenOf (node : Node) (kind : Kind) : List Node :=
  node.children.filter fun c => c.kind == kind

mutual
/-- The node and everything inside it, each node in front of what is inside it. -/
def walk : Node → List Node
  | .mk content name modifiers attributes children =>
    .mk content name modifiers attributes children :: walkAll children

/-- The nodes of a list and everything inside them. -/
def walkAll : List Node → List Node
  | [] => []
  | node :: rest => walk node ++ walkAll rest
end

end Node

/-- Everything that is declared in one source text. -/
structure CompilationUnit where
  /-- The namespaces whose names can be used without them. -/
  usings : List String
  /-- The declarations in order. -/
  members : List Node
  deriving Repr, Inhabited

namespace CompilationUnit

/-- The namespace of a name. -/
def namespace? (unit : CompilationUnit) (name : String) : Option Node :=
  unit.members.find? fun m => m.kind == .namespaceKind && m.name == name

/-- The first class of a name directly inside one of the members. -/
def class? (unit : CompilationUnit) (name : String) : Option Node :=
  (unit.members.flatMap fun m => m.childrenOf .classKind).find? fun c => c.name == name

/-- All classes, those inside others included. -/
def allClasses (unit : CompilationUnit) : List Node :=
  (unit.members.flatMap Node.walk).filter fun n => n.kind == .classKind

end CompilationUnit

end TypedMvc.Declaration
