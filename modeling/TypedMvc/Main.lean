import TypedMvc.Command.Run

/-!
# The program

The files around the working directory and the project are read, with the rules of the directories
above them, the command line is run on them, and what it changed is written back. Everything that is
decided is decided by `Command.run`.
-/

namespace TypedMvc

open Files

/-- Reads a file or a directory with everything in it. -/
partial def readEntry (path : String) : IO Entry := do
  let place := (← IO.currentDir) / path
  if ← place.isDir then
    let names := (← place.readDir).toList.map (·.fileName)
    let entries ← names.mapM fun name => do
      return (name, ← readEntry (path ++ "/" ++ name))
    return .directory entries
  else return .file (← IO.FS.readBinFile place)

/-- The names from the root to an absolute path. -/
def namesOf (path : String) : List String := (Text.pieces '/' path).filter (· ≠ "")

/-- Reads what an absolute path names and puts it among the files. -/
def addPath (root : Entry) (path : String) : IO Entry := do
  let names := namesOf path
  let (root, _) := makeAlong .willing root [] false names.dropLast
  return Entry.put (← readEntry path) names root

/-- What a directory may hold that tells which entries below it are ignored. -/
def ruleFiles : List (List String) :=
  [[".ignore"], [".gitignore"], [".git"], [".git", "info", "exclude"]]

/-- Reads what lies under some names, if anything does that is not among the files yet, and puts it
there. Of a directory nothing more is read. -/
def addRules (root : Entry) (names : List String) : IO Entry := do
  let place := (← IO.currentDir) / ("/" ++ Text.join "/" names)
  if (root.at? names).isSome || !(← place.pathExists) then return root
  let entry : Entry ←
    if ← place.isDir then pure (.directory []) else Entry.file <$> IO.FS.readBinFile place
  let (root, _) := makeAlong .willing root [] false names.dropLast
  return Entry.put entry names root

/-- Reads the rules of the directories above an absolute path and puts them among the files. -/
def addRulesAbove (root : Entry) (path : String) : IO Entry := do
  let names := namesOf path
  let mut root := root
  for depth in List.range names.length do
    for file in ruleFiles do
      root ← addRules root (names.take depth ++ file)
  return root

/-- The directory that a project argument is about, if there is one. -/
def projectPath (project : String) : IO (Option String) := do
  let place := (← IO.currentDir) / project
  if !(← place.pathExists) then return none
  let real := (← IO.FS.realPath place).toString
  if ← place.isDir then return some real
  return some ((Path.parent? real).getD "/")

/-- The files that a run may be about. -/
def readDisk (arguments : List String) : IO Disk := do
  let here := (← IO.currentDir).toString
  let mut root ← addPath (.directory []) here
  let mut paths := [here]
  if let .run request := Command.Request.ofArguments arguments then
    if let some project := request.project then
      if let some path ← projectPath project then
        root ← addPath root path
        paths := path :: paths
  for path in paths do
    root ← addRulesAbove root path
  return ⟨root, namesOf here⟩

/-- Writes what differs from how it was: directories that are new, and files with other bytes. -/
partial def writeChanges (before : Option Entry) (path : String) : Entry → IO Unit
  | .file content => do
    let same := match before with
      | some (.file known) => content == known
      | _ => false
    if !same then IO.FS.writeBinFile path content
  | .directory entries => do
    if !before.any Entry.isDirectory then IO.FS.createDirAll path
    for (name, entry) in entries do
      writeChanges (before.bind (·.child? name)) (path ++ "/" ++ name) entry

/-- The variables of the environment that are looked at. -/
def readEnvironment : IO (String → Option String) := do
  let names := ["R4MVC_HELPERS_PREFIX", "R4MVC_NAMESPACE", "R4MVC_LINKS_CLASS",
    "R4MVC_OUTPUT_FILE"]
  let pairs ← names.mapM fun name => do return (name, ← IO.getEnv name)
  return fun name => (pairs.lookup name).join

end TypedMvc

/-- Runs the command line and gives the exit code. -/
def main (arguments : List String) : IO UInt32 := do
  let disk ← TypedMvc.readDisk arguments
  let outcome := TypedMvc.Command.run ⟨disk, ← TypedMvc.readEnvironment⟩ arguments
  TypedMvc.writeChanges (some disk.root) "" outcome.disk.root
  for line in outcome.log do
    IO.eprintln line.render
  IO.print outcome.output
  if let some failure := outcome.failure then
    IO.eprintln failure.render
  if outcome.exitCode == 2 then
    IO.eprint TypedMvc.Command.usage
  return UInt32.ofNat outcome.exitCode
