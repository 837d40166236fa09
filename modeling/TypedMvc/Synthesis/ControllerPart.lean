import TypedMvc.Model.Controller
import TypedMvc.Synthesis.Field

/-!
# The generated part of a controller

What is added to a controller: the names of its actions, the same names as constants, and its
views. Each of the three comes with the members needed to reach it. Where an action has the name of
one of these members, the whole group is left out.
-/

namespace TypedMvc.Synthesis

open Declaration Model Naming

/-- The class with the names of the actions. -/
def actionNamesClassName : String := "ActionNamesClass"

/-- The class with the names of the actions as constants. -/
def actionConstantsClassName : String := "ActionNameConstants"

/-- The class with the paths of the views. -/
def viewsClassName : String := "ViewsClass"

/-- The class with the names of the views. -/
def viewNamesClassName : String := "_ViewNamesClass"

/-- The names that no field for a view can have. -/
def reservedViewNames : List String :=
  [viewsClassName, "s_ViewNames", "ViewNames", viewNamesClassName]

/-- The members for the names of the actions. -/
def actionNamesGroup : List String := [actionNamesClassName, "s_actions", "ActionNames"]

/-- The members for the names of the actions as constants. -/
def actionConstantsGroup : List String := [actionConstantsClassName]

/-- The members for the views. -/
def viewsGroup : List String := [viewsClassName, "s_views", "Views"]

/-- The members that are added to a controller, in groups. -/
def memberGroups : List (List String) := [actionNamesGroup, actionConstantsGroup, viewsGroup]

/-- The names of the actions, each with itself as text. -/
def actionPairs (controller : Controller) : List (String × String) :=
  controller.uniqueActionNames.map fun name => (name, name)

/-- The class with the names of the actions. -/
def actionNamesClass (controller : Controller) : Node :=
  textMembersClass actionNamesClassName (actionPairs controller) .readOnly

/-- The class with the names of the actions as constants. -/
def actionConstantsClass (controller : Controller) : Node :=
  textMembersClass actionConstantsClassName (actionPairs controller) .constant

/-- A field with the only instance of a class, and the property by which it is reached. -/
def singleton (className field property : String) : List Node := [
  (Node.ofField field className (.create className)).withModifiers
    [.staticModifier, .readOnlyModifier],
  (Node.ofProperty property className (.member field)).withModifiers [.publicModifier]]

/-- The views of a controller that can have a field. -/
def ownedViews (controller : Controller) (views : List View) : List View :=
  (views.filter controller.ownsView).filter fun view =>
    !reservedViewNames.contains (memberIdentifier view.viewName)

/-- The class with the paths of the views, and inside it the one with their names. -/
def viewsClass (controller : Controller) (views : List View) : Node :=
  let owned := ownedViews controller views
  let viewNames := textMembersClass viewNamesClassName
    (owned.map fun view => (view.viewName, view.viewName)) .readOnly
  let paths := uniqueTextFields (owned.map fun view => (view.viewName, view.virtualPath))
    Binding.readOnly.modifiers reservedViewNames
  (((generatedClass viewsClassName).withChildren
    (singleton viewNamesClassName "s_ViewNames" "ViewNames")).withChild viewNames).withChildren
      paths

/-- Whether an action has a name. -/
def hasAction (controller : Controller) (name : String) : Bool :=
  controller.actions.any fun action => action.name == name

/-- The members to be added whose names an action has already. -/
def shadowedMembers (controller : Controller) : List String :=
  memberGroups.flatten.filter (hasAction controller)

/-- Whether a group of members is added to a controller. -/
def keepsGroup (controller : Controller) (group : List String) : Bool :=
  !group.any fun member => (shadowedMembers controller).contains member

/-- What is added to a controller, as a part of its class. -/
def controllerPart (controller : Controller) (views : List View) : Node :=
  let actionNames :=
    if keepsGroup controller actionNamesGroup then
      actionNamesClass controller :: singleton actionNamesClassName "s_actions" "ActionNames"
    else []
  let actionConstants :=
    if keepsGroup controller actionConstantsGroup then [actionConstantsClass controller] else []
  let viewMembers :=
    if keepsGroup controller viewsGroup then
      viewsClass controller views :: singleton viewsClassName "s_views" "Views"
    else []
  ((Node.ofClass controller.typeName).withModifiers
    [.publicModifier, .partialModifier]).withChildren
      (actionNames ++ actionConstants ++ viewMembers)

end TypedMvc.Synthesis
