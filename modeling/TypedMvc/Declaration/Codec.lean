import TypedMvc.Data.Value
import TypedMvc.Declaration.Node

/-!
# Declarations as structured data

A declaration as a structured value. What a declaration does not have is left out.
-/

namespace TypedMvc.Declaration

open Data

/-- The name of a kind. -/
def Kind.label : Kind → String
  | .namespaceKind => "namespace"
  | .classKind => "class"
  | .fieldKind => "field"
  | .propertyKind => "property"

/-- The name of a modifier. -/
def Modifier.label : Modifier → String
  | .readOnlyModifier => "read_only"
  | modifier => modifier.keyword

/-- An expression as a value. -/
def Expr.toValue : Expr → Value
  | .text value => .object [("kind", .text "string"), ("value", .text value)]
  | .create type => .object [("kind", .text "new"), ("value", .text type)]
  | .member name => .object [("kind", .text "ident"), ("value", .text name)]

/-- A field that is written only if its list is not empty. -/
def listField (name : String) (items : List Value) : List (String × Value) :=
  if items.isEmpty then [] else [(name, .array items)]

/-- An attribute as a value. -/
def Attribute.toValue (a : Attribute) : Value :=
  .object (("name", .text a.name) :: listField "arguments" (a.arguments.map Expr.toValue))

mutual
/-- A declaration as a value. -/
def Node.toValue : Node → Value
  | .mk content name modifiers attributes children =>
    let node := Node.mk content name modifiers attributes children
    .object ([("kind", .text node.kind.label), ("name", .text name)] ++
      (node.typeName?.map fun type => ("type_name", Value.text type)).toList ++
      listField "modifiers" (modifiers.map fun m => .text m.label) ++
      listField "attributes" (attributes.map Attribute.toValue) ++
      (node.value?.map fun value => ("value", value.toValue)).toList ++
      listField "children" (Node.toValues children))

/-- Declarations as values. -/
def Node.toValues : List Node → List Value
  | [] => []
  | node :: rest => node.toValue :: Node.toValues rest
end

/-- Everything that is declared in one source text, as a value. -/
def CompilationUnit.toValue (unit : CompilationUnit) : Value :=
  .object [("usings", .ofTexts unit.usings), ("members", .array (Node.toValues unit.members))]

end TypedMvc.Declaration
