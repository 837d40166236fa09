import TypedMvc.Controllers.Discovery
import TypedMvc.Project.StaticFiles
import TypedMvc.Synthesis.ControllerPart

/-!
# What a run reports

The lines that a run writes to its log. They warn of wrong syntax, of controllers whose generated
members will not fit, and of views and static files that get no field because another one has the
name.
-/

namespace TypedMvc.Command

open Model Naming

/-- How important a line of the log is. -/
inductive Level where
  /-- For information. -/
  | info
  /-- Something may be wrong. -/
  | warn
  deriving Repr, DecidableEq, Inhabited

/-- The name of a level. -/
def Level.name : Level → String
  | .info => "INFO"
  | .warn => "WARN"

/-- A line of the log. -/
structure LogLine where
  /-- How important it is. -/
  level : Level
  /-- The part of the program that writes it. -/
  target : String
  /-- What it says. -/
  message : String
  deriving Repr, DecidableEq, Inhabited

/-- A line of the log as it is shown. -/
def LogLine.render (line : LogLine) : String :=
  line.level.name ++ " " ++ line.target ++ ": " ++ line.message

/-- The part of the program that runs the commands. -/
def mainTarget : String := "r4mvc"

/-- The part of the program that looks for static files. -/
def staticTarget : String := "r4mvc_locators::static_files"

/-- A warning. -/
def warning (message : String) : LogLine := ⟨.warn, mainTarget, message⟩

/-- The warning for wrong syntax. -/
def syntaxWarning (d : Symbols.Diagnostic) : LogLine :=
  warning (d.file ++ ":" ++ toString d.line ++ ": " ++ d.message)

/-- The warnings for a controller. -/
def controllerWarnings (controller : Controller) : List LogLine :=
  let name := controller.qualifiedReference
  (if controller.isPartial then []
    else [warning (name ++
      " is not declared partial; the generated members will not compile against it")]) ++
    ((Synthesis.shadowedMembers controller).map fun member =>
      warning (name ++ " has an action named " ++ member ++
        "; the generated members sharing it are left out")) ++
    controller.overloadedActions.map fun action =>
      warning (name ++ " has overloads of " ++ action ++ "; one action name is generated")

/-- The warning for an excluded pattern that is passed over. -/
def patternWarning (bad : Project.BadPattern) : LogLine :=
  ⟨.warn, staticTarget, "ignoring invalid static exclude " ++ Text.quoted bad.pattern ++ ": " ++
    bad.fault⟩

/-- The elements of a list that get no field, each with the identifier it would have had: the
identifier is taken, or an earlier element has it. -/
def droppedFrom {α : Type} (nameOf : α → String) (taken : List String) :
    List α → List (α × String)
  | [] => []
  | a :: rest =>
    let ident := memberIdentifier (nameOf a)
    if ident ∈ taken then (a, ident) :: droppedFrom nameOf taken rest
    else droppedFrom nameOf (ident :: taken) rest

/-- The views of a controller that get no field. -/
def droppedViews (controller : Controller) (views : List View) : List (View × String) :=
  droppedFrom (·.viewName) Synthesis.reservedViewNames (views.filter controller.ownsView)

/-- The static files that get no field. -/
def droppedFiles (linksClass : String) (files : List StaticFile) : List (StaticFile × String) :=
  droppedFrom (·.fileName) [linksClass] files

/-- The warning for a view of a controller that gets no field. -/
def viewWarning (controller : Controller) (dropped : View × String) : LogLine :=
  warning ("view " ++ dropped.1.relativePath ++ " dropped: " ++ controller.name ++
    " already has a view or member named " ++ dropped.2)

/-- The warning for a static file that gets no field. -/
def fileWarning (dropped : StaticFile × String) : LogLine :=
  warning ("static file " ++ dropped.1.relativePath ++ " dropped: field " ++ dropped.2 ++
    " already exists")

/-- The warnings for everything that gets no field. -/
def droppedWarnings (controllers : List Controller) (views : List View)
    (files : List StaticFile) (linksClass : String) : List LogLine :=
  (controllers.flatMap fun controller =>
    (droppedViews controller views).map (viewWarning controller)) ++
    (droppedFiles linksClass files).map fileWarning

/-- The line that counts what was found. -/
def summary (controllers : List Controller) (views : List View) (files : List StaticFile) :
    LogLine :=
  let actions := controllers.foldl (fun count c => count + c.actions.length) 0
  ⟨.info, mainTarget, toString controllers.length ++ " controllers, " ++ toString actions ++
    " actions, " ++ toString views.length ++ " views, " ++ toString files.length ++
    " static files"⟩

end TypedMvc.Command
