import TypedMvc.Naming.Matching
import TypedMvc.Text.Pieces

/-!
# Controllers, actions, views and static files

What a project is made of as far as the generated members are concerned.
-/

namespace TypedMvc.Model

open Naming

/-- A parameter of an action. -/
structure Parameter where
  /-- The name of the parameter. -/
  name : String
  /-- The type of the parameter as it is written. -/
  typeName : String
  deriving Repr, DecidableEq, Inhabited

/-- An action of a controller. -/
structure Action where
  /-- The name of the action. -/
  name : String
  /-- The name of the type that declares it. -/
  controller : String
  /-- The parameters in order. -/
  parameters : List Parameter := []
  /-- The return type as it is written. -/
  returnType : Option String := none
  deriving Repr, DecidableEq, Inhabited

/-- The action's name with its parameters in parentheses. -/
def Action.signature (action : Action) : String :=
  action.name ++ "(" ++
    Text.join ", " (action.parameters.map fun p => p.typeName ++ " " ++ p.name) ++ ")"

/-- A view that belongs to a controller by the folder it lies in. -/
structure View where
  /-- The name of the folder. -/
  controllerName : String
  /-- The name of the view. -/
  viewName : String
  /-- The path from the project's root. -/
  relativePath : String
  deriving Repr, DecidableEq, Inhabited

/-- The path of a view from the root of the application. -/
def View.virtualPath (view : View) : String := "~/" ++ normalizeSeparators view.relativePath

/-- A static file. -/
structure StaticFile where
  /-- The name of the file. -/
  fileName : String
  /-- The path from the root of the static files. -/
  relativePath : String
  deriving Repr, DecidableEq, Inhabited

/-- The path of a static file with slashes. -/
def StaticFile.urlPath (file : StaticFile) : String := normalizeSeparators file.relativePath

/-- A controller. -/
structure Controller where
  /-- The name of the controller: that of its type without the suffix. -/
  name : String
  /-- The name of the type. -/
  typeName : String
  /-- The namespace of the type; none for the global one. -/
  namespaceName : Option String
  /-- The name by which the type is referred to from anywhere. -/
  qualifiedReference : String
  /-- The actions in order of declaration. -/
  actions : List Action
  /-- Whether a declaration of the type is partial. -/
  isPartial : Bool := false
  /-- The files with a declaration of the type. -/
  sourceFiles : List String := []
  deriving Repr, DecidableEq, Inhabited

namespace Controller

/-- The controller of a type, without actions. An empty namespace is the global one. -/
def ofType (typeName : String) (namespaceName : Option String) (suffix : String) : Controller :=
  let namespaceName := namespaceName.filter (· ≠ "")
  { name := stripSuffix typeName suffix
    typeName
    namespaceName
    qualifiedReference :=
      match namespaceName with
      | some outer => outer ++ "." ++ typeName
      | none => typeName
    actions := [] }

/-- The controller with one more action, which has no parameters. -/
def withAction (controller : Controller) (name : String) : Controller :=
  { controller with
    actions := controller.actions ++ [{ name, controller := controller.typeName }] }

/-- The controller, partial or not. -/
def withPartial (controller : Controller) (isPartial : Bool) : Controller :=
  { controller with isPartial }

/-- The names of a list without those already seen, each once, in order. -/
def distinctFrom (seen : List String) : List String → List String
  | [] => []
  | name :: rest =>
    if name ∈ seen then distinctFrom seen rest else name :: distinctFrom (name :: seen) rest

/-- The names of the actions, each once, in order of first declaration. -/
def uniqueActionNames (controller : Controller) : List String :=
  distinctFrom [] (controller.actions.map (·.name))

/-- The names of a list that were seen before, each once, in order of second occurrence. -/
def repeatedFrom (seen repeated : List String) : List String → List String
  | [] => []
  | name :: rest =>
    if name ∈ seen then
      if name ∈ repeated then repeatedFrom seen repeated rest
      else name :: repeatedFrom seen (name :: repeated) rest
    else repeatedFrom (name :: seen) repeated rest

/-- The names that more than one action has, each once, in order of second declaration. -/
def overloadedActions (controller : Controller) : List String :=
  repeatedFrom [] [] (controller.actions.map (·.name))

/-- Whether a view belongs to the controller: its folder is called like the type or like the
controller, whatever the case. -/
def ownsView (controller : Controller) (view : View) : Bool :=
  eqIgnoreCase view.controllerName controller.typeName ||
    eqIgnoreCase view.controllerName controller.name

end Controller

end TypedMvc.Model
