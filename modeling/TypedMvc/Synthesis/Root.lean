import TypedMvc.Synthesis.Collision
import TypedMvc.Synthesis.Field

/-!
# The classes of the whole project

The class with a field for each controller, and the one with a field for each static file.
-/

namespace TypedMvc.Synthesis

open Declaration Model Naming

/-- How a type is referred to from anywhere. -/
def globalReference (qualified : String) : String := "global::" ++ qualified

/-- A generated class without instances, to which more parts can be added. -/
def staticPart (name : String) : Node :=
  ((Node.ofClass name).withModifiers
    [.publicModifier, .staticModifier, .partialModifier]).withAttributes generatedAttributes

/-- The field for a controller, with an instance of it. -/
def controllerField (controller : Controller) : Node :=
  let type := globalReference controller.qualifiedReference
  (Node.ofField (fieldNameOf controller) type (.create type)).withModifiers
    [.publicModifier, .staticModifier]

/-- The class with a field for each controller. -/
def rootClass (controllers : List Controller) (settings : Settings.Generation) : Node :=
  (staticPart settings.helpersPrefix).withChildren (controllers.map controllerField)

/-- The class with a field for each static file. -/
def linksClass (files : List StaticFile) (settings : Settings.Generation) : Node :=
  (staticPart settings.linksClass).withChildren
    (uniqueTextFields (files.map fun file => (file.fileName, file.urlPath))
      [.publicModifier, .staticModifier] [settings.linksClass])

end TypedMvc.Synthesis
