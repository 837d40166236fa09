import TypedMvc.Symbols.Inheritance

/-!
# The convention for controllers

A controller is a public class of its own, neither abstract nor static nor generic, that is called
with the suffix and derives from a controller of the framework or says that it is one. Its public
methods are actions, apart from those that cannot be called from outside or opt out.
-/

namespace TypedMvc.Controllers

open Symbols

/-- What the convention says of a type. -/
inductive Shape where
  /-- The type is a controller. -/
  | controller
  /-- The type is not a class. -/
  | notAClass
  /-- The type is nested in another one. -/
  | nested
  /-- The type is not public. -/
  | notPublic
  /-- The class is abstract. -/
  | abstractClass
  /-- The class is static. -/
  | staticClass
  /-- The class has type parameters. -/
  | generic
  /-- The name does not end with the suffix, or is nothing else. -/
  | nameMismatch
  /-- The class says that it is no controller. -/
  | optedOut
  /-- The class neither derives from a controller nor says that it is one. -/
  | noControllerBase
  deriving Repr, DecidableEq, Inhabited

/-- The base classes of the framework that make a class a controller. -/
def frameworkBases : List String := ["Controller", "ControllerBase"]

/-- Whether a name ends with a suffix and is not the suffix alone. -/
def hasProperSuffix (name suffix : String) : Bool :=
  suffix.utf8ByteSize < name.utf8ByteSize && suffix.toList.isSuffixOf name.toList

/-- What the convention says of a type in a project. -/
def classify (suffix : String) (snapshot : Snapshot) (type : TypeSymbol) : Shape :=
  if type.kind ≠ .classType then .notAClass
  else if type.containingType.isSome then .nested
  else if !hasProperSuffix type.name suffix then .nameMismatch
  else if !type.hasModifier "public" then .notPublic
  else if type.hasModifier "abstract" then .abstractClass
  else if type.hasModifier "static" then .staticClass
  else if type.genericArity > 0 then .generic
  else if type.hasAttribute "NonController" then .optedOut
  else if type.hasAttribute "Controller" || snapshot.inheritsFrom type frameworkBases then
    .controller
  else .noControllerBase

/-- Whether a method of a controller is an action. -/
def isAction (method : MethodSymbol) : Bool :=
  method.hasModifier "public" && !method.hasModifier "static" && !method.hasModifier "abstract" &&
    !method.hasModifier "override" && !method.isGeneric && !method.hasAttribute "NonAction" &&
    !(method.name == "Dispose" && method.parameters.isEmpty)

end TypedMvc.Controllers
