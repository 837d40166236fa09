import TypedMvc.CSharp.Tree
import TypedMvc.Text.Pieces

/-!
# Declared types

What is known of each declaration of a type in the project. A partial type has a declaration for
each of its parts.
-/

namespace TypedMvc.Symbols

open CSharp (TypeKind)

/-- A parameter of a method. -/
structure ParameterSymbol where
  /-- The name of the parameter. -/
  name : String
  /-- The type as it is written. -/
  typeName : String
  deriving Repr, DecidableEq, Inhabited

/-- A method declared directly in a type. -/
structure MethodSymbol where
  /-- The name of the method. -/
  name : String
  /-- The modifiers in order. -/
  modifiers : List String
  /-- The names of the attributes in order. -/
  attributes : List String
  /-- The parameters in order. -/
  parameters : List ParameterSymbol
  /-- The return type as it is written. -/
  returnType : Option String
  /-- Whether the method has type parameters. -/
  isGeneric : Bool
  /-- The line of its first token. -/
  line : Nat
  deriving Repr, DecidableEq, Inhabited

/-- Whether the method has a modifier. -/
def MethodSymbol.hasModifier (method : MethodSymbol) (modifier : String) : Bool :=
  method.modifiers.contains modifier

/-- Whether the method has an attribute. -/
def MethodSymbol.hasAttribute (method : MethodSymbol) (name : String) : Bool :=
  method.attributes.contains name

/-- A declaration of a type. -/
structure TypeSymbol where
  /-- The name of the type. -/
  name : String
  /-- The namespace it is declared in. -/
  namespaceName : Option String
  /-- What kind of type it is. -/
  kind : TypeKind
  /-- The type it is nested in. -/
  containingType : Option String
  /-- The modifiers in order. -/
  modifiers : List String
  /-- The names of the attributes in order. -/
  attributes : List String
  /-- The simple names of the bases in order. -/
  baseTypes : List String
  /-- How many type parameters it has. -/
  genericArity : Nat
  /-- The methods in order. -/
  methods : List MethodSymbol
  /-- The file of the declaration. -/
  file : String
  /-- The line of its first token. -/
  line : Nat
  deriving Repr, DecidableEq, Inhabited

namespace TypeSymbol

/-- The namespace, the containing type and the name, as far as there are any, with dots between
them. -/
def qualifiedName (type : TypeSymbol) : String :=
  Text.join "." (type.namespaceName.toList ++ type.containingType.toList ++ [type.name])

/-- Whether the type has a modifier. -/
def hasModifier (type : TypeSymbol) (modifier : String) : Bool := type.modifiers.contains modifier

/-- Whether the type has an attribute. -/
def hasAttribute (type : TypeSymbol) (name : String) : Bool := type.attributes.contains name

end TypeSymbol

end TypedMvc.Symbols
