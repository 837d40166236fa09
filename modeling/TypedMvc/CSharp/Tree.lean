import TypedMvc.CSharp.Token

/-!
# Syntax trees

The tree of a source file, as the symbol table reads it. Every node has a label, a stretch of the
text and children in order. A part of a declaration that is looked up by what it is (its name, its
body) carries that role. Two labels stand for syntax that is wrong: an error node holds what could
not be read, and a supplied token stands where one is missing.
-/

namespace TypedMvc.CSharp

/-- The kinds of type that a program declares. -/
inductive TypeKind where
  /-- A class. -/
  | classType
  /-- A struct. -/
  | structType
  /-- An interface. -/
  | interfaceType
  /-- A record, whether a class or a struct. -/
  | recordType
  /-- An enumeration. -/
  | enumType
  deriving Repr, DecidableEq, Inhabited

/-- What a node of the syntax tree is. -/
inductive Label where
  /-- A whole source file. -/
  | compilationUnit
  /-- A namespace with a body in braces. -/
  | blockNamespace
  /-- A namespace for the rest of the file. -/
  | fileNamespace
  /-- Declarations in braces. -/
  | declarationList
  /-- The declaration of a type. -/
  | typeDeclaration (kind : TypeKind)
  /-- The declaration of a method. -/
  | methodDeclaration
  /-- A keyword in front of a declaration. -/
  | modifier
  /-- Attributes in one pair of brackets. -/
  | attributeList
  /-- One attribute. -/
  | attribute
  /-- The types behind the colon of a type declaration. -/
  | baseList
  /-- Type parameters in angle brackets. -/
  | typeParameterList
  /-- One type parameter. -/
  | typeParameter
  /-- Parameters in parentheses. -/
  | parameterList
  /-- One parameter. -/
  | parameter
  /-- Arguments in parentheses. -/
  | argumentList
  /-- A name or a type. -/
  | name
  /-- A comment, or a directive that stands for nothing. -/
  | remark
  /-- A construct that holds no declarations of its own. -/
  | construct
  /-- A token by its text. -/
  | token (text : String)
  /-- Text that could not be read. -/
  | error
  deriving Repr, DecidableEq, Inhabited

/-- The part that a child plays in its parent. -/
inductive Role where
  /-- The name of a declaration or an attribute. -/
  | name
  /-- The type of a parameter. -/
  | type
  /-- The return type of a method. -/
  | returns
  /-- The body of a type declaration. -/
  | body
  deriving Repr, DecidableEq, Inhabited

/-- A node of the syntax tree. -/
inductive Node where
  /-- A node from its label, its role in the parent, its stretch of text, whether it was supplied
  for a missing token, and its children. -/
  | mk (label : Label) (role : Option Role) (span : Span) (supplied : Bool) (children : List Node)
  deriving Repr, Inhabited

namespace Node

/-- What the node is. -/
def label : Node → Label
  | mk label _ _ _ _ => label

/-- The part the node plays in its parent. -/
def role : Node → Option Role
  | mk _ role _ _ _ => role

/-- The stretch of text the node covers. -/
def span : Node → Span
  | mk _ _ span _ _ => span

/-- Whether the node stands for a missing token. -/
def supplied : Node → Bool
  | mk _ _ _ supplied _ => supplied

/-- The children in order. -/
def children : Node → List Node
  | mk _ _ _ _ children => children

/-- The node in another role. -/
def withRole (role : Role) : Node → Node
  | mk label _ span supplied children => mk label (some role) span supplied children

/-- The first child in a role. -/
def child? (node : Node) (role : Role) : Option Node :=
  node.children.find? fun c => c.role == some role

/-- Whether the node is an error node. -/
def isError (node : Node) : Bool := node.label == .error

mutual
/-- Whether the node is, or holds, an error node or a supplied token. -/
def hasError : Node → Bool
  | mk label _ _ supplied children => label == .error || supplied || anyHasError children

/-- Whether one of the nodes is, or holds, an error node or a supplied token. -/
def anyHasError : List Node → Bool
  | [] => false
  | node :: rest => hasError node || anyHasError rest
end

end Node

end TypedMvc.CSharp
