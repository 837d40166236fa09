import TypedMvc.Files.Tree
import TypedMvc.Settings.Config

/-!
# Writing the generated file

The generated file is only written if it does not hold the text already, so that a file that stays
the same is not touched. Directories that are missing are made.
-/

namespace TypedMvc.Project

open Files

/-- Where the generated file of a project goes. -/
def outputPath (directory : String) (settings : Settings.Generation) : String :=
  Path.join directory settings.outputFile

/-- Why a file cannot be written. -/
inductive WriteError where
  /-- The directory cannot be made. -/
  | noDirectory (path : String) (obstacle : Obstacle)
  /-- The file itself cannot be written. -/
  | noFile (path : String) (obstacle : Obstacle)
  deriving Repr, DecidableEq, Inhabited

/-- The message for a file that cannot be written. -/
def WriteError.message : WriteError → String
  | .noDirectory path _ => "failed to create " ++ path
  | .noFile path _ => "failed to write " ++ path

/-- What stands in the way of a file. -/
def WriteError.obstacle : WriteError → Obstacle
  | .noDirectory _ obstacle | .noFile _ obstacle => obstacle

/-- Writes a text to a file, and tells whether the file did not hold it already. -/
def write (disk : Disk) (text destination : String) (system : System := .willing) :
    Disk × Except WriteError Bool :=
  let content := text.toUTF8
  if (disk.read? destination).any (·.data = content.data) then (disk, .ok false)
  else
    let parent := (Path.parent? destination).getD ""
    let (disk, obstacle) :=
      if parent = "" then (disk, none) else disk.makeDirectories parent system
    match obstacle with
    | some obstacle => (disk, .error (.noDirectory parent obstacle))
    | none =>
      match disk.writeFile destination content system with
      | .ok disk => (disk, .ok true)
      | .error (obstacle, disk) => (disk, .error (.noFile destination obstacle))

end TypedMvc.Project
