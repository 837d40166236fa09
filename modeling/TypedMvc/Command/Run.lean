import TypedMvc.Command.Arguments
import TypedMvc.Command.Report
import TypedMvc.Data.Json
import TypedMvc.Declaration.Codec
import TypedMvc.Model.Codec
import TypedMvc.Project.Output
import TypedMvc.Project.Sources
import TypedMvc.Project.Views
import TypedMvc.Settings.Load
import TypedMvc.Synthesis.Generate

/-!
# Running a command

A run as a function from the files, the environment and the command line to what it prints and
logs, how it ends, and the files as they are afterwards. Only writing the generated file changes
them. A run makes use of what others have made (`Tools`).
-/

namespace TypedMvc.Command

open Data Files Model

/-- Where a run takes place. -/
structure World where
  /-- The files. -/
  disk : Disk
  /-- The variables of the environment. -/
  environment : String → Option String

/-- What a run makes use of: the walk to the files of a project, the readers of patterns, source
texts and documents, and the system that directories and files are made by. -/
structure Tools where
  /-- The walk to the files of a project. -/
  walk : Walker := ruledWalk
  /-- The reader of patterns. -/
  readPattern : PatternReader := Glob.read
  /-- The parser. -/
  parser : CSharp.Parser := CSharp.parse
  /-- The reader of documents. -/
  valueOf? : Toml.DocumentReader := Toml.document?
  /-- The system. -/
  system : System := .willing

/-- Why a run fails, with the cause underneath if there is one. -/
structure Failure where
  /-- What failed. -/
  message : String
  /-- The cause. -/
  cause : Option String := none
  deriving Repr, DecidableEq, Inhabited

/-- The report of a failure. -/
def Failure.render (failure : Failure) : String :=
  "Error: " ++ failure.message ++
    match failure.cause with
    | some cause => "\n\nCaused by:\n    " ++ cause
    | none => ""

/-- What comes of a run. -/
structure Outcome where
  /-- The exit code. -/
  exitCode : Nat
  /-- What is printed. -/
  output : String
  /-- The lines of the log. -/
  log : List LogLine
  /-- Why the run failed, if it did. -/
  failure : Option Failure
  /-- The files afterwards. -/
  disk : Disk
  deriving Inhabited

/-- The directory that the files are in when no project is named. -/
def currentDirectory (disk : Disk) : String := "/" ++ Text.join "/" disk.workingDirectory

/-- The directory of the project. A project file stands for the directory it is in. -/
def projectDirectory (disk : Disk) (project : Option String) : Except Failure String :=
  let path := project.getD (currentDirectory disk)
  if disk.isFile path then
    if ((Path.fileName? path).bind Path.extension?) = some "csproj" then
      match Path.parent? path with
      | none | some "" => .ok "."
      | some parent =>
        if disk.isDirectory parent then .ok parent
        else .error { message := "project directory " ++ parent ++ " does not exist" }
    else .error { message := path ++ " is not a .csproj file" }
  else if disk.isDirectory path then .ok path
  else .error { message := "project directory " ++ path ++ " does not exist" }

/-- What is found in a project. -/
structure Discovery where
  /-- The controllers. -/
  controllers : List Controller
  /-- The views. -/
  views : List View
  /-- The static files. -/
  staticFiles : List StaticFile
  deriving Repr, DecidableEq, Inhabited

/-- Finds what is in a project, and says what there is to say about it. -/
def discover (tools : Tools) (disk : Disk) (directory : String) (config : Settings.Config) :
    Except Project.MalformedInput (Discovery × List LogLine) := do
  let sources ← Project.collectSources disk directory config.analysis.exclude
    config.generation.outputFile tools.walk tools.readPattern
  let snapshot := Symbols.Snapshot.ofFiles sources tools.parser
  let controllers := Controllers.discover config.generation.controllerSuffix snapshot
  let views := Project.discoverViews disk directory [.ofSettings config.locators]
  let files := Project.discoverStaticFiles disk directory
    [.ofSettings config.locators tools.readPattern]
  let log :=
    snapshot.diagnostics.map syntaxWarning ++
      controllers.flatMap controllerWarnings ++
      (Project.StaticLocator.badPatterns tools.readPattern config.locators.staticExclude).map
        patternWarning ++
      droppedWarnings controllers views files config.generation.linksClass ++
      [summary controllers views files]
  return (⟨controllers, views, files⟩, log)

/-- What was found as a value. -/
def Discovery.toValue (discovery : Discovery) : Value :=
  .object [
    ("controllers", .array (discovery.controllers.map Controller.toValue)),
    ("views", .array (discovery.views.map View.toValue)),
    ("static_files", .array (discovery.staticFiles.map StaticFile.toValue))]

/-- What a run comes to that prints something or fails, without a change to the files. -/
def finish (disk : Disk) (log : List LogLine) : Except Failure String → Outcome
  | .ok output => ⟨0, output, log, none, disk⟩
  | .error failure => ⟨1, "", log, some failure, disk⟩

/-- The generated declarations for what was found. -/
def unitOf (discovery : Discovery) (config : Settings.Config) :
    Except Failure Declaration.CompilationUnit :=
  match Synthesis.generate discovery.controllers discovery.views discovery.staticFiles
      config.generation with
  | .ok unit => .ok unit
  | .error collision => .error { message := collision.message }

/-- Writes the generated text to its file. -/
def writeOutput (system : System) (disk : Disk) (directory : String) (config : Settings.Config)
    (log : List LogLine) (text : String) : Outcome :=
  let destination := Project.outputPath directory config.generation
  match Project.write disk text destination system with
  | (disk, .ok true) =>
    ⟨0, "", log ++ [⟨.info, mainTarget, "wrote " ++ destination⟩], none, disk⟩
  | (disk, .ok false) =>
    ⟨0, "", log ++ [⟨.info, mainTarget, destination ++ " is up to date"⟩], none, disk⟩
  | (disk, .error error) =>
    ⟨1, "", log, some { message := error.message, cause := some error.obstacle.message }, disk⟩

/-- The configuration with the options of the command line in place of its settings. -/
def withOptions (config : Settings.Config) (output namespaceName : Option String) :
    Settings.Config :=
  { config with
    generation := { config.generation with
      outputFile := output.getD config.generation.outputFile
      namespaceName := namespaceName.getD config.generation.namespaceName } }

/-- Generates the file for a project, or prints it. -/
def runGenerate (tools : Tools) (disk : Disk) (directory : String) (config : Settings.Config)
    (dryRun : Bool) : Outcome :=
  match config.fault? with
  | some fault => finish disk [] (.error { message := fault.message })
  | none =>
    match discover tools disk directory config with
    | .error malformed => finish disk [] (.error { message := malformed.message })
    | .ok (discovery, log) =>
      match unitOf discovery config with
      | .error failure => finish disk log (.error failure)
      | .ok unit =>
        if dryRun then finish disk log (.ok unit.render)
        else writeOutput tools.system disk directory config log unit.render

/-- Prints what was found in a project, or the generated declarations. -/
def runInspect (tools : Tools) (disk : Disk) (directory : String) (config : Settings.Config)
    (tree : Bool) : Outcome :=
  match discover tools disk directory config with
  | .error malformed => finish disk [] (.error { message := malformed.message })
  | .ok (discovery, log) =>
    if tree then
      finish disk log ((unitOf discovery config).map fun unit => Json.render unit.toValue ++ "\n")
    else finish disk log (.ok (Json.render discovery.toValue.sortFields ++ "\n"))

/-- Does what a command line asks for. -/
def runArguments (tools : Tools) (world : World) (arguments : Arguments) : Outcome :=
  let disk := world.disk
  match projectDirectory disk arguments.project with
  | .error failure => finish disk [] (.error failure)
  | .ok directory =>
    match Settings.Config.loadFrom disk directory (.ofEnvironment world.environment)
        tools.valueOf? with
    | .error error =>
      finish disk [] (.error {
        message := "failed to load configuration for " ++ directory
        cause := some error.message })
    | .ok config =>
      match arguments.task with
      | .generate output namespaceName dryRun =>
        runGenerate tools disk directory (withOptions config output namespaceName) dryRun
      | .inspect tree => runInspect tools disk directory config tree

/-- How the program is used. -/
def usage : String :=
  "Usage: r4mvc [--project <PATH>] generate [--output <PATH>] [--namespace <NAME>] [--dry-run]\n" ++
    "       r4mvc [--project <PATH>] inspect [--tree]\n"

/-- Runs a command line. A command line that is refused ends with the exit code two. -/
def run (world : World) (arguments : List String) (tools : Tools := {}) : Outcome :=
  match Request.ofArguments arguments with
  | .run arguments => runArguments tools world arguments
  | .help => finish world.disk [] (.ok usage)
  | .refused => ⟨2, "", [], none, world.disk⟩

end TypedMvc.Command
