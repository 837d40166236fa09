import TypedMvc.Controllers.Convention
import TypedMvc.Model.Controller
import TypedMvc.Symbols.Partial

/-!
# The controllers of a project

The controllers among the declared types, parts put together, with their actions, in order of first
declaration.
-/

namespace TypedMvc.Controllers

open Model Symbols

/-- The action that a method of a controller is. -/
def actionOf (controller : String) (method : MethodSymbol) : Action :=
  { name := method.name
    controller
    parameters := method.parameters.map fun p => ⟨p.name, p.typeName⟩
    returnType := method.returnType }

/-- The controller that a type is. -/
def controllerOf (suffix : String) (merged : MergedType) : Controller :=
  let type := merged.type
  { Controller.ofType type.name type.namespaceName suffix with
    actions := (type.methods.filter isAction).map (actionOf type.name)
    isPartial := type.hasModifier "partial"
    sourceFiles := merged.files }

/-- The controllers of a project. -/
def discover (suffix : String) (snapshot : Snapshot) : List Controller :=
  ((mergeParts snapshot.types).filter fun merged =>
    classify suffix snapshot merged.type = .controller).map (controllerOf suffix)

end TypedMvc.Controllers
