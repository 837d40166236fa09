import TypedMvc.Files.Walk
import TypedMvc.Model.Controller
import TypedMvc.Settings.Config

/-!
# The views of a project

Views are files with certain extensions below a folder that has a folder of its own for each
controller. Files that lie in no controller's folder are no views.
-/

namespace TypedMvc.Project

open Files Model

/-- Where views are looked for. -/
structure ViewLocator where
  /-- The folder with the folders of the controllers. -/
  folder : String
  /-- The extensions in lower case. -/
  extensions : List String
  deriving Repr, DecidableEq, Inhabited

namespace ViewLocator

/-- A place where views are looked for, from extensions in any case. -/
def ofFolder (folder : String) (extensions : List String) : ViewLocator :=
  ⟨folder, extensions.map Unicode.lower⟩

/-- The place where views are looked for by the settings. -/
def ofSettings (settings : Settings.Locators) : ViewLocator :=
  ofFolder settings.viewsFolder settings.viewExtensions

/-- The place where views usually are. -/
def usual : ViewLocator := ofSettings {}

/-- Whether a file has the extension of a view. -/
def hasViewExtension (locator : ViewLocator) (name : String) : Bool :=
  (Path.extension? name).any fun extension =>
    locator.extensions.any fun e => Naming.eqIgnoreAsciiCase e extension

/-- A path from the project's directory, or the path itself if it does not begin there. -/
def pathFrom (directory path : String) : String :=
  let steps := Path.components path
  let start := Path.components directory
  let steps := if start.isPrefixOf steps then steps.drop start.length else steps
  Text.join "/" (steps.map Component.text)

/-- The view that a file below the folder is, if it lies in a controller's folder. -/
def viewOf? (locator : ViewLocator) (directory : String) (found : Found) : Option View :=
  match found.path with
  | controller :: _ :: _ =>
    if locator.hasViewExtension found.name then
      some ⟨controller, Path.stem found.name,
        pathFrom directory (Path.join (Path.join directory locator.folder) found.relativePath)⟩
    else none
  | _ => none

/-- Whether one view comes before another. -/
def viewLe (a b : View) : Bool := decide (a.relativePath ≤ b.relativePath)

/-- The views of the project in a directory, in the order of their paths. -/
def find (locator : ViewLocator) (disk : Disk) (directory : String) : List View :=
  match disk.entry? (Path.join directory locator.folder) with
  | some (.directory entries) =>
    ((visibleFiles (.directory entries)).filterMap
      (locator.viewOf? directory)).mergeSort viewLe
  | _ => []

end ViewLocator

/-- The views that several locators find, one after another. -/
def discoverViews (disk : Disk) (directory : String) (locators : List ViewLocator) : List View :=
  locators.flatMap fun locator => locator.find disk directory

end TypedMvc.Project
