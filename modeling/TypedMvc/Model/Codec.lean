import TypedMvc.Data.Value
import TypedMvc.Model.Controller

/-!
# The model as structured data

How controllers, actions, views and static files are written as structured values and read back.
Lists that are empty and return types that are not known are left out where they may be.
-/

namespace TypedMvc.Model

open Data

/-- A field that is written only if its list is not empty. -/
def unlessEmpty {α : Type} (name : String) (items : List α) (write : α → Value) :
    List (String × Value) :=
  if items.isEmpty then [] else [(name, .array (items.map write))]

namespace Parameter

/-- A parameter as a value. -/
def toValue (parameter : Parameter) : Value :=
  .object [("name", .text parameter.name), ("type_name", .text parameter.typeName)]

/-- A parameter from a value. -/
def ofValue? (value : Value) : Option Parameter := do
  let record ← Record.ofValue? 2 value
  let name ← record.required 0 "name" Value.asText?
  let typeName ← record.required 1 "type_name" Value.asText?
  return { name, typeName }

end Parameter

namespace Action

/-- An action as a value. -/
def toValue (action : Action) : Value :=
  .object ([("name", .text action.name), ("controller", .text action.controller)] ++
    unlessEmpty "parameters" action.parameters Parameter.toValue ++
    (action.returnType.map fun type => ("return_type", Value.text type)).toList)

/-- An action from a value. -/
def ofValue? (value : Value) : Option Action := do
  let record ← Record.ofValue? 4 value
  let name ← record.required 0 "name" Value.asText?
  let controller ← record.required 1 "controller" Value.asText?
  let parameters ← record.withDefault 2 "parameters" (Value.asList? Parameter.ofValue?) []
  let returnType ← record.withDefault 3 "return_type" (Value.asNullable? Value.asText?) none
  return { name, controller, parameters, returnType }

end Action

namespace View

/-- A view as a value. -/
def toValue (view : View) : Value :=
  .object [("controller_name", .text view.controllerName), ("view_name", .text view.viewName),
    ("relative_path", .text view.relativePath)]

/-- A view from a value. -/
def ofValue? (value : Value) : Option View := do
  let record ← Record.ofValue? 3 value
  let controllerName ← record.required 0 "controller_name" Value.asText?
  let viewName ← record.required 1 "view_name" Value.asText?
  let relativePath ← record.required 2 "relative_path" Value.asText?
  return { controllerName, viewName, relativePath }

end View

namespace StaticFile

/-- A static file as a value. -/
def toValue (file : StaticFile) : Value :=
  .object [("file_name", .text file.fileName), ("relative_path", .text file.relativePath)]

/-- A static file from a value. -/
def ofValue? (value : Value) : Option StaticFile := do
  let record ← Record.ofValue? 2 value
  let fileName ← record.required 0 "file_name" Value.asText?
  let relativePath ← record.required 1 "relative_path" Value.asText?
  return { fileName, relativePath }

end StaticFile

namespace Controller

/-- A controller as a value. -/
def toValue (controller : Controller) : Value :=
  .object ([("name", .text controller.name), ("type_name", .text controller.typeName),
    ("namespace", .ofNullable .text controller.namespaceName),
    ("qualified_reference", .text controller.qualifiedReference),
    ("actions", .array (controller.actions.map Action.toValue)),
    ("is_partial", .boolean controller.isPartial)] ++
    unlessEmpty "source_files" controller.sourceFiles .text)

/-- A controller from a value. -/
def ofValue? (value : Value) : Option Controller := do
  let record ← Record.ofValue? 7 value
  let name ← record.required 0 "name" Value.asText?
  let typeName ← record.required 1 "type_name" Value.asText?
  let namespaceName ← record.withDefault 2 "namespace" (Value.asNullable? Value.asText?) none
  let qualifiedReference ← record.required 3 "qualified_reference" Value.asText?
  let actions ← record.required 4 "actions" (Value.asList? Action.ofValue?)
  let isPartial ← record.withDefault 5 "is_partial" Value.asBoolean? false
  let sourceFiles ← record.withDefault 6 "source_files" Value.asTexts? []
  return { name, typeName, namespaceName, qualifiedReference, actions, isPartial, sourceFiles }

end Controller

end TypedMvc.Model
