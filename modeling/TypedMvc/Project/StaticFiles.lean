import TypedMvc.Files.GlobSyntax
import TypedMvc.Files.Walk
import TypedMvc.Model.Controller
import TypedMvc.Settings.Config

/-!
# The static files of a project

All files below a certain folder, apart from those that match an excluded pattern. Patterns that
cannot be read are passed over.
-/

namespace TypedMvc.Project

open Files Model

/-- Where static files are looked for. -/
structure StaticLocator where
  /-- The folder with the files. -/
  folder : String
  /-- The paths that each of the excluded patterns stands for. -/
  exclude : List (String → Bool)
  deriving Inhabited

/-- A pattern that cannot be read. -/
structure BadPattern where
  /-- The pattern. -/
  pattern : String
  /-- What is wrong with it. -/
  fault : String
  deriving Repr, DecidableEq, Inhabited

namespace StaticLocator

/-- A place where static files are looked for. -/
def ofFolder (folder : String) (exclude : List String) (readPattern : PatternReader := Glob.read) :
    StaticLocator :=
  ⟨folder, exclude.filterMap fun pattern => (readPattern pattern).toOption⟩

/-- The place where static files are looked for by the settings. -/
def ofSettings (settings : Settings.Locators) (readPattern : PatternReader := Glob.read) :
    StaticLocator :=
  ofFolder settings.staticRoot settings.staticExclude readPattern

/-- The place where static files usually are. -/
def usual : StaticLocator := ofSettings {}

/-- The patterns that are passed over. -/
def badPatterns (readPattern : PatternReader) (exclude : List String) : List BadPattern :=
  exclude.filterMap fun pattern =>
    match readPattern pattern with
    | .ok _ => none
    | .error fault => some ⟨pattern, fault⟩

/-- Whether one file comes before another. -/
def fileLe (a b : StaticFile) : Bool := decide (a.relativePath ≤ b.relativePath)

/-- The static files of the project in a directory, in the order of their paths. -/
def find (locator : StaticLocator) (disk : Disk) (directory : String) : List StaticFile :=
  match disk.entry? (Path.join directory locator.folder) with
  | some (.directory entries) =>
    let files := (visibleFiles (.directory entries)).filter fun found =>
      !locator.exclude.any fun isMatch => isMatch found.relativePath
    (files.map fun found => ⟨found.name, found.relativePath⟩).mergeSort fileLe
  | _ => []

end StaticLocator

/-- The static files that several locators find, one after another. -/
def discoverStaticFiles (disk : Disk) (directory : String) (locators : List StaticLocator) :
    List StaticFile :=
  locators.flatMap fun locator => locator.find disk directory

end TypedMvc.Project
