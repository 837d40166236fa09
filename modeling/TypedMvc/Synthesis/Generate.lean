import TypedMvc.Synthesis.ControllerPart
import TypedMvc.Synthesis.Root

/-!
# Everything that is generated

The declarations for a project: the parts of its controllers by namespace, in order of first
appearance, and the classes of the whole project in the namespace of the settings.
-/

namespace TypedMvc.Synthesis

open Declaration Model

/-- The namespaces of the attributes that generated classes have. -/
def usings : List String := ["System.CodeDom.Compiler", "System.Diagnostics"]

/-- Adds declarations to the group of a namespace, which is put last if it is not there. -/
def addToGroup (name : String) (members : List Node) :
    List (String × List Node) → List (String × List Node)
  | [] => [(name, members)]
  | (other, known) :: rest =>
    if other = name then (other, known ++ members) :: rest
    else (other, known) :: addToGroup name members rest

/-- The name of the namespace that a controller is in; empty for the global one. -/
def namespaceOf (controller : Controller) : String := controller.namespaceName.getD ""

/-- The parts of the controllers by namespace. -/
def controllerGroups (controllers : List Controller) (views : List View) :
    List (String × List Node) :=
  controllers.foldl (fun groups controller =>
    addToGroup (namespaceOf controller) [controllerPart controller views] groups) []

/-- The declarations for a project, or the collision that stands in the way. -/
def generate (controllers : List Controller) (views : List View) (files : List StaticFile)
    (settings : Settings.Generation) : Except Collision CompilationUnit :=
  match collision? controllers settings with
  | some collision => .error collision
  | none =>
    let groups := addToGroup settings.namespaceName
      [rootClass controllers settings, linksClass files settings]
      (controllerGroups controllers views)
    .ok ⟨usings, groups.map fun group => (Node.ofNamespace group.1).withChildren group.2⟩

end TypedMvc.Synthesis
