import TypedMvc.Command.Run
import TypedMvc.Proofs.RuledWalks
import TypedMvc.Proofs.StableScans

/-!
# Running the program again

A run that succeeds leaves the generated text in its file (`exists_of_run`), and a run that finds
the same things finds the file up to date (`Generates.run_of_read?`). So the question is what the
second run finds. The project's directory and the configuration are the same as in the first run,
and so are the sources, whatever walk leads to them, if it goes by names that are not in the path of
the file. The views and the static files are the same exactly if the file was there before the first
run or lies where it is neither: `run_again`.
-/

namespace TypedMvc.Files.Disk

variable {disk before after : Disk} {path : String}

/-- The program's own directory is a directory. -/
theorem isDirectory_dot (wellFormed : disk.root.HasDirectory disk.workingDirectory) :
    disk.isDirectory "." = true := by
  obtain ⟨entries, there⟩ := wellFormed
  have stays : stepFrom disk.workingDirectory "." = disk.workingDirectory := by
    rw [stepFrom, if_pos (by decide)]
  have located : disk.locate? "." = some disk.workingDirectory := by
    have single : Text.pieces '/' "." = ["."] := by decide
    have start : disk.start "." = disk.workingDirectory := if_neg (by decide)
    rw [locate?_eq_some_iff, single, start, follow_cons_eq_some_iff, stays]
    exact ⟨by decide, ⟨entries, there⟩, ⟨_, there⟩, rfl⟩
  refine isDirectory_iff.mpr ⟨.directory entries, ?_, rfl⟩
  rw [Disk.entry?, located, Option.bind_some, there]

/-- A path that names a directory leads to one. -/
theorem exists_locate?_of_isDirectory (isDirectory : disk.isDirectory path = true) :
    ∃ here, disk.locate? path = some here ∧ disk.root.HasDirectory here := by
  obtain ⟨entry, found, kind⟩ := isDirectory_iff.mp isDirectory
  obtain ⟨here, located, there⟩ := Option.bind_eq_some_iff.mp found
  exact ⟨here, located, hasDirectory_iff.mpr ⟨entry, there, kind⟩⟩

end TypedMvc.Files.Disk

namespace TypedMvc.Command

open Files

variable {tools : Tools} {world : World} {disk before after : Disk} {arguments guides : List String}
  {directory : String} {config : Settings.Config}

/-! ## The project's directory -/

/-- The directory of the project that a path names: a directory itself, or the one that a project
file lies in. -/
inductive NamesProject (disk : Disk) (path : String) : String → Prop where
  /-- The path names the directory. -/
  | itself (isDirectory : disk.isDirectory path = true) : NamesProject disk path path
  /-- The path names a project file in the directory. -/
  | above {parent : String} (isFile : disk.isFile path = true)
      (isProject : (Path.fileName? path).bind Path.extension? = some "csproj")
      (isParent : Path.parent? path = some parent) (named : parent ≠ "")
      (isDirectory : disk.isDirectory parent = true) : NamesProject disk path parent
  /-- The path is that of a project file only, which lies in the program's own directory. -/
  | alone (isFile : disk.isFile path = true)
      (isProject : (Path.fileName? path).bind Path.extension? = some "csproj")
      (isAlone : Path.parent? path = none ∨ Path.parent? path = some "") :
      NamesProject disk path "."

/-- The directory of the project is the one that is named, or the program's own. -/
theorem projectDirectory_eq_ok_iff {project : Option String} :
    projectDirectory disk project = .ok directory ↔
      NamesProject disk (project.getD (currentDirectory disk)) directory := by
  rw [projectDirectory]
  generalize project.getD (currentDirectory disk) = path
  constructor
  · intro found
    split at found
    · next isFile =>
      split at found
      · next isProject =>
        split at found
        · next isAlone =>
          cases found
          exact .alone isFile isProject (Or.inl isAlone)
        · next isAlone =>
          cases found
          exact .alone isFile isProject (Or.inr isAlone)
        · next parent named isParent =>
          split at found
          · next isDirectory =>
            cases found
            exact .above isFile isProject isParent named isDirectory
          · cases found
      · cases found
    · split at found
      · next isDirectory =>
        cases found
        exact .itself isDirectory
      · cases found
  · intro names
    cases names with
    | itself isDirectory =>
      rw [if_neg (by rw [Disk.isFile_eq_false isDirectory]; decide), if_pos isDirectory]
    | above isFile isProject isParent named isDirectory =>
      rw [if_pos isFile, if_pos isProject, isParent]
      split
      · next missing => cases missing
      · next empty => exact absurd (Option.some.inj empty) named
      · next same =>
        cases same
        rw [if_pos isDirectory]
    | alone isFile isProject isAlone =>
      rw [if_pos isFile, if_pos isProject]
      rcases isAlone with isAlone | isAlone
      · rw [isAlone]
      · rw [isAlone]
        rfl

/-- The directory of the project is a directory. -/
theorem isDirectory_of_projectDirectory {project : Option String}
    (wellFormed : disk.root.HasDirectory disk.workingDirectory)
    (found : projectDirectory disk project = .ok directory) :
    disk.isDirectory directory = true := by
  cases projectDirectory_eq_ok_iff.mp found with
  | itself isDirectory => exact isDirectory
  | above _ _ _ _ isDirectory => exact isDirectory
  | alone => exact Disk.isDirectory_dot wellFormed

/-- The directory of the project is found again where everything has kept its kind. -/
theorem projectDirectory_eq_of_keeps {project : Option String} (keeps : before.Keeps after)
    (found : projectDirectory before project = .ok directory) :
    projectDirectory after project = .ok directory := by
  have current : currentDirectory after = currentDirectory before := by
    rw [currentDirectory, currentDirectory, keeps.workingDirectory]
  rw [projectDirectory_eq_ok_iff] at found ⊢
  rw [current]
  cases found with
  | itself isDirectory => exact .itself (keeps.isDirectory_eq isDirectory)
  | above isFile isProject isParent named isDirectory =>
    exact .above (keeps.isFile_eq isFile) isProject isParent named
      (keeps.isDirectory_eq isDirectory)
  | alone isFile isProject isAlone => exact .alone (keeps.isFile_eq isFile) isProject isAlone

/-! ## One run -/

/-- A command line that has the generated file of a project written, with the directory of the
project and the configuration that the run comes to. -/
inductive Generates (tools : Tools) (world : World) (arguments : List String) :
    String → Settings.Config → Prop where
  /-- The settings are those of the project, with the options of the command line. -/
  | intro {project output namespaceName : Option String} {directory : String}
      {config : Settings.Config}
      (asked : Request.ofArguments arguments =
        .run ⟨project, .generate output namespaceName false⟩)
      (located : projectDirectory world.disk project = .ok directory)
      (loaded : Settings.Config.loadFrom world.disk directory (.ofEnvironment world.environment)
        tools.valueOf? = .ok config) :
      Generates tools world arguments directory (withOptions config output namespaceName)

/-- Such a command line has the file generated. -/
theorem Generates.run_eq (generates : Generates tools world arguments directory config) :
    run world arguments tools = runGenerate tools world.disk directory config false := by
  obtain ⟨asked, located, loaded⟩ := generates
  rw [run, asked]
  dsimp only
  rw [runArguments]
  simp only [located, loaded]

/-- A run with valid settings that finds something and makes a unit of it writes its text. -/
theorem runGenerate_eq_writeOutput {discovery : Discovery} {log : List LogLine}
    {unit : Declaration.CompilationUnit} (valid : config.fault? = none)
    (found : discover tools disk directory config = .ok (discovery, log))
    (made : unitOf discovery config = .ok unit) :
    runGenerate tools disk directory config false =
      writeOutput tools.system disk directory config log unit.render := by
  rw [runGenerate, valid]
  dsimp only
  rw [found]
  dsimp only
  rw [made]
  rfl

/-- A run that succeeds has valid settings, finds something and makes a unit of it. -/
theorem exists_of_runGenerate
    (succeeds : (runGenerate tools disk directory config false).exitCode = 0) :
    ∃ discovery log unit, config.fault? = none ∧
      discover tools disk directory config = .ok (discovery, log) ∧
      unitOf discovery config = .ok unit := by
  -- Each stage that fails ends the run with an exit code other than zero.
  rw [runGenerate] at succeeds
  cases fault : config.fault? with
  | some fault' =>
    rw [fault] at succeeds
    cases succeeds
  | none =>
    rw [fault] at succeeds
    dsimp only at succeeds
    cases found : discover tools disk directory config with
    | error malformed =>
      rw [found] at succeeds
      cases succeeds
    | ok all =>
      obtain ⟨discovery, log⟩ := all
      rw [found] at succeeds
      dsimp only at succeeds
      cases made : unitOf discovery config with
      | error failure =>
        rw [made] at succeeds
        cases succeeds
      | ok unit => exact ⟨discovery, log, unit, rfl, rfl, made⟩

/-- Writing the output succeeds only if the file could be written or holds the text already. -/
theorem exists_write_of_writeOutput {log : List LogLine} {text : String}
    (succeeds : (writeOutput tools.system disk directory config log text).exitCode = 0) :
    ∃ written,
      Project.write disk text (Project.outputPath directory config.generation) tools.system =
        ((writeOutput tools.system disk directory config log text).disk, .ok written) := by
  unfold writeOutput at succeeds ⊢
  cases wrote :
      Project.write disk text (Project.outputPath directory config.generation) tools.system with
  | mk after result =>
    simp only [wrote] at succeeds ⊢
    cases result with
    | error error => cases succeeds
    | ok written => cases written <;> exact ⟨_, rfl⟩

/-- The line of the log that says that a file is up to date. -/
def upToDate (destination : String) : LogLine :=
  ⟨.info, mainTarget, destination ++ " is up to date"⟩

/-- A text that is in the file already leaves everything as it is. -/
theorem writeOutput_of_read? {log : List LogLine} {text : String}
    (holds : disk.read? (Project.outputPath directory config.generation) = some text.toUTF8) :
    writeOutput tools.system disk directory config log text =
      ⟨0, "", log ++ [upToDate (Project.outputPath directory config.generation)], none, disk⟩ := by
  unfold writeOutput
  simp only [Project.write_of_read? tools.system holds, upToDate]

/-! ## The second run -/

/-- What was found are the views and the static files on the disk. -/
theorem found_of_discover {discovery : Discovery} {log : List LogLine}
    (found : discover tools disk directory config = .ok (discovery, log)) :
    discovery.views = (Project.ViewLocator.ofSettings config.locators).find disk directory ∧
      discovery.staticFiles =
        (Project.StaticLocator.ofSettings config.locators tools.readPattern).find disk
          directory := by
  rw [discover] at found
  cases collected : Project.collectSources disk directory config.analysis.exclude
      config.generation.outputFile tools.walk tools.readPattern with
  | error malformed =>
    rw [collected] at found
    cases found
  | ok sources =>
    rw [collected] at found
    cases found
    simp [Project.discoverViews, Project.discoverStaticFiles]

/-- Where sources, views and static files are the same, the same is found and said. -/
theorem discover_eq_of_found
    (sources : Project.collectSources after directory config.analysis.exclude
        config.generation.outputFile tools.walk tools.readPattern =
      Project.collectSources before directory config.analysis.exclude
        config.generation.outputFile tools.walk tools.readPattern)
    (views : (Project.ViewLocator.ofSettings config.locators).find after directory =
      (Project.ViewLocator.ofSettings config.locators).find before directory)
    (files : (Project.StaticLocator.ofSettings config.locators tools.readPattern).find after
        directory =
      (Project.StaticLocator.ofSettings config.locators tools.readPattern).find before directory) :
    discover tools after directory config = discover tools before directory config := by
  simp only [discover, Project.discoverViews, Project.discoverStaticFiles, List.flatMap_cons,
    List.flatMap_nil, sources, views, files]

/-- The generated file is one of the views or the static files of its project. -/
def IsFound (tools : Tools) (disk : Disk) (directory : String) (config : Settings.Config) : Prop :=
  ∃ place, disk.locate? (Project.outputPath directory config.generation) = some place ∧
    ((Project.ViewLocator.ofSettings config.locators).FindsAt disk directory place ∨
      (Project.StaticLocator.ofSettings config.locators tools.readPattern).FindsAt disk directory
        place)

/-- The paths in the settings lead where they led before a run, or nothing was there: the generated
file has no name in its path that guides a run, the folders were there or have no step up in their
paths, and the path of the file led to it unless it is new. -/
structure IsSteady (before after : Disk) (directory : String) (config : Settings.Config)
    (guides : List String) : Prop where
  /-- No name in the path of the generated file is that of the document with the configuration, or
  one that the walk to the sources goes by. -/
  names : ∀ piece ∈ Text.pieces '/' config.generation.outputFile,
    piece ∉ Settings.configFile :: guides
  /-- The folder of the views. -/
  viewsFolder : (before.locate? (Path.join directory config.locators.viewsFolder)).isSome = true ∨
    ".." ∉ Text.pieces '/' config.locators.viewsFolder
  /-- The folder of the static files. -/
  staticRoot : (before.locate? (Path.join directory config.locators.staticRoot)).isSome = true ∨
    ".." ∉ Text.pieces '/' config.locators.staticRoot
  /-- The generated file is an old one by its path, or nothing was at its place. -/
  settled : before.isFile (Project.outputPath directory config.generation) = true ∨
    ∀ place, after.locate? (Project.outputPath directory config.generation) = some place →
      before.root.at? place = none

/-- After a file was written below the project's directory the same is found exactly if the file is
an old one or is not found itself. -/
theorem discover_eq_iff {here output : List String} {content : ByteArray}
    (goesBy : tools.walk.GoesBy guides) (tree : before.root.IsTree)
    (grown : before.Grown after directory here output guides)
    (leads : after.locate? (Project.outputPath directory config.generation) = some output)
    (holds : after.root.at? output = some (.file content))
    (steady : IsSteady before after directory config guides)
    (runs : ∃ found, discover tools before directory config = .ok found) :
    discover tools after directory config = discover tools before directory config ↔
      before.isFile (Project.outputPath directory config.generation) = true ∨
        ¬ IsFound tools after directory config := by
  have old (isFile : before.isFile (Project.outputPath directory config.generation) = true) :
      before.locate? (Project.outputPath directory config.generation) = some output ∧
        ∃ entry, before.root.at? output = some entry := by
    obtain ⟨entry, found, -⟩ := Disk.isFile_iff.mp isFile
    obtain ⟨place, located, there⟩ := Option.bind_eq_some_iff.mp found
    obtain rfl := grown.keeps.place_eq located leads
    exact ⟨located, entry, there⟩
  constructor
  · intro same
    by_contra feeds
    rw [not_or, not_not] at feeds
    -- A new file that is found makes the views or the static files more than before.
    obtain ⟨isNew, place, located, finds⟩ := feeds
    rw [leads] at located
    cases located
    have free := (steady.settled.resolve_left isNew) output leads
    obtain ⟨⟨discovery, log⟩, first⟩ := runs
    have firstly := found_of_discover first
    have secondly := found_of_discover (same.trans first)
    rcases finds with isView | isStatic
    · have more := Project.ViewLocator.length_find_lt grown tree free holds isView
      rw [← firstly.1, ← secondly.1] at more
      exact Nat.lt_irrefl _ more
    · have more := Project.StaticLocator.length_find_lt grown tree free holds isStatic
      rw [← firstly.2, ← secondly.2] at more
      exact Nat.lt_irrefl _ more
  · intro apart
    have settled : before.locate? (Project.outputPath directory config.generation) = some output ∨
        before.root.at? output = none :=
      steady.settled.imp (fun isFile => (old isFile).1) fun free => free output leads
    apply discover_eq_of_found
    · exact Project.collectSources_eq_of_grown goesBy grown tree leads settled
    · refine Project.ViewLocator.find_eq_of_grown grown steady.viewsFolder ?_
      exact apart.imp (fun isFile => (old isFile).2) fun notFound isView =>
        notFound ⟨output, leads, Or.inl isView⟩
    · refine Project.StaticLocator.find_eq_of_grown grown steady.staticRoot ?_
      exact apart.imp (fun isFile => (old isFile).2) fun notFound isStatic =>
        notFound ⟨output, leads, Or.inr isStatic⟩

/-- A run that succeeds found something, made a unit of it, and leaves the text in the file. Either
nothing is changed, or the file was written below the project's directory. -/
theorem exists_of_run (room : world.disk.root.HasDirectory world.disk.workingDirectory)
    (generates : Generates tools world arguments directory config)
    (succeeds : (run world arguments tools).exitCode = 0)
    (names : ∀ piece ∈ Text.pieces '/' config.generation.outputFile,
      piece ∉ Settings.configFile :: guides) :
    ∃ discovery log unit, config.fault? = none ∧
      discover tools world.disk directory config = .ok (discovery, log) ∧
      unitOf discovery config = .ok unit ∧
      (run world arguments tools).disk.read? (Project.outputPath directory config.generation) =
        some unit.render.toUTF8 ∧
      ((run world arguments tools).disk = world.disk ∨
        ∃ here output content,
          world.disk.Grown (run world arguments tools).disk directory here output guides ∧
          (run world arguments tools).disk.locate?
            (Project.outputPath directory config.generation) = some output ∧
          (run world arguments tools).disk.root.at? output = some (.file content)) := by
  rw [generates.run_eq] at succeeds ⊢
  obtain ⟨discovery, log, unit, valid, found, made⟩ := exists_of_runGenerate succeeds
  rw [runGenerate_eq_writeOutput valid found made] at succeeds ⊢
  obtain ⟨wrote, written⟩ := exists_write_of_writeOutput succeeds
  refine ⟨discovery, log, unit, valid, found, made, ?_⟩
  obtain ⟨-, same, holds⟩ | ⟨isTrue, -⟩ := Project.write_cases written
  · rw [same]
    exact ⟨holds, Or.inl rfl⟩
  · obtain ⟨_, isProject, _⟩ := generates
    have isDirectory := isDirectory_of_projectDirectory room isProject
    obtain ⟨here, located, inside⟩ := Disk.exists_locate?_of_isDirectory isDirectory
    rw [isTrue] at written
    obtain ⟨output, grows, place, leads, holds⟩ :=
      Project.write_grows located inside names written
    exact ⟨Disk.read?_of_locate? leads holds,
      Or.inr ⟨here, output, _, ⟨located, inside, place, grows⟩, leads, holds⟩⟩

/-- A command line asks for the same on a disk onto which its file was written. -/
theorem Generates.of_grown {here output : List String}
    (generates : Generates tools world arguments directory config)
    (grown : world.disk.Grown after directory here output guides) :
    Generates tools ⟨after, world.environment⟩ arguments directory config := by
  obtain ⟨asked, isProject, loaded⟩ := generates
  exact .intro asked (projectDirectory_eq_of_keeps grown.keeps isProject)
    ((grown.loadFrom_eq _ _).trans loaded)

/-- A command line that finds its text in the file says so and leaves everything as it is. -/
theorem Generates.run_of_read? {discovery : Discovery} {log : List LogLine}
    {unit : Declaration.CompilationUnit}
    (generates : Generates tools world arguments directory config) (valid : config.fault? = none)
    (found : discover tools world.disk directory config = .ok (discovery, log))
    (made : unitOf discovery config = .ok unit)
    (holds : world.disk.read? (Project.outputPath directory config.generation) =
      some unit.render.toUTF8) :
    run world arguments tools =
      ⟨0, "", log ++ [upToDate (Project.outputPath directory config.generation)], none,
        world.disk⟩ := by
  rw [generates.run_eq, runGenerate_eq_writeOutput valid found made, writeOutput_of_read? holds]

/-- A second run of a command line that generates a file finds what the first run found exactly if
the file was there before or is not found itself. In that case it succeeds, has the same text, says
that the file is up to date, and leaves everything as it is. -/
theorem run_again (goesBy : tools.walk.GoesBy guides) (wellFormed : world.disk.IsWellFormed)
    (generates : Generates tools world arguments directory config)
    (succeeds : (run world arguments tools).exitCode = 0)
    (steady : IsSteady world.disk (run world arguments tools).disk directory config guides) :
    let after := (run world arguments tools).disk
    let again := run ⟨after, world.environment⟩ arguments tools
    let destination := Project.outputPath directory config.generation
    (discover tools after directory config = discover tools world.disk directory config ↔
      world.disk.isFile destination = true ∨ ¬ IsFound tools after directory config) ∧
    (world.disk.isFile destination = true ∨ ¬ IsFound tools after directory config →
      ∃ discovery log unit, discover tools world.disk directory config = .ok (discovery, log) ∧
        unitOf discovery config = .ok unit ∧
        after.read? destination = some unit.render.toUTF8 ∧
        again = ⟨0, "", log ++ [upToDate destination], none, after⟩) := by
  intro after again destination
  obtain ⟨discovery, log, unit, valid, found, made, holds, same | written⟩ :=
    exists_of_run wellFormed.workingDirectory generates succeeds steady.names
  · -- The file held the text already, so it was there.
    have isSame : after = world.disk := same
    rw [same] at holds
    have isFile : world.disk.isFile destination = true := Disk.isFile_of_read? holds
    refine ⟨by simp [isSame, isFile], fun _ => ⟨discovery, log, unit, found, made, ?_⟩⟩
    simp only [again, isSame]
    exact ⟨holds, generates.run_of_read? valid found made holds⟩
  · obtain ⟨here, output, content, grown, leads, there⟩ := written
    have same := discover_eq_iff goesBy wellFormed.tree grown leads there steady ⟨_, found⟩
    refine ⟨same, fun apart => ⟨discovery, log, unit, found, made, holds, ?_⟩⟩
    have foundAgain := (same.mpr apart).trans found
    exact (generates.of_grown grown).run_of_read? valid foundAgain made holds

/-- The second run is the same where the file goes into a directory of its own. -/
theorem run_again_elsewhere :
    let world : World := ⟨⟨.directory [("app", .directory [("wwwroot", .directory
      [("site.css", .file .empty)])])], ["app"]⟩, fun _ => none⟩
    let arguments := ["generate", "--output", "Generated/Mvc.cs"]
    let config := withOptions {} (some "Generated/Mvc.cs") none
    let tools : Tools := {}
    let after := (run world arguments tools).disk
    tools.walk.GoesBy ruleNames ∧ world.disk.IsWellFormed ∧
      Generates tools world arguments "/app" config ∧ (run world arguments tools).exitCode = 0 ∧
      IsSteady world.disk after "/app" config ruleNames ∧ ¬ IsFound tools after "/app" config ∧
      ∃ log, run ⟨after, world.environment⟩ arguments tools =
        ⟨0, "", log ++ [upToDate "/app/Generated/Mvc.cs"], none, after⟩ := by
  intro world arguments config tools after
  have wellFormed : world.disk.IsWellFormed := by
    refine ⟨?_, _, rfl⟩
    refine .directory (by simp) (List.forall_mem_singleton.mpr ?_)
    refine .directory (by simp) (List.forall_mem_singleton.mpr ?_)
    refine .directory (by simp) (List.forall_mem_singleton.mpr ?_)
    exact .file .empty
  have asked : Request.ofArguments arguments =
      .run ⟨none, .generate (some "Generated/Mvc.cs") none false⟩ := by decide +kernel
  have generates : Generates tools world arguments "/app" config :=
    .intro asked (by decide +kernel) (by decide +kernel)
  have succeeds : (run world arguments tools).exitCode = 0 := by decide +kernel
  have destination : Project.outputPath "/app" config.generation = "/app/Generated/Mvc.cs" := by
    decide +kernel
  have leads : after.locate? (Project.outputPath "/app" config.generation) =
      some ["app", "Generated", "Mvc.cs"] := by decide +kernel
  have steady : IsSteady world.disk after "/app" config ruleNames := by
    refine ⟨by decide +kernel, Or.inr (by decide +kernel), Or.inr (by decide +kernel),
      Or.inr fun place located => ?_⟩
    rw [leads] at located
    cases located
    rfl
  have notFound : ¬ IsFound tools after "/app" config := by
    have noViews : after.locate? (Path.join "/app" config.locators.viewsFolder) = none := by
      decide +kernel
    have files : after.locate? (Path.join "/app" config.locators.staticRoot) =
        some ["app", "wwwroot"] := by decide +kernel
    rintro ⟨place, located, ⟨folder, found, isFolder, -⟩ | ⟨folder, found, isFolder, inside, -⟩⟩
    · cases noViews.symm.trans isFolder
    · cases files.symm.trans isFolder
      cases leads.symm.trans located
      simp at inside
  obtain ⟨discovery, log, unit, -, -, -, again⟩ :=
    (run_again goesBy_ruledWalk wellFormed generates succeeds steady).2 (Or.inr notFound)
  rw [destination] at again
  exact ⟨goesBy_ruledWalk, wellFormed, generates, succeeds, steady, notFound, log, again⟩

/-- A second run that finds something of which another text is made leaves that text in the file, if
it succeeds. -/
theorem read?_run_ne {discovery discovery' : Discovery} {log log' : List LogLine}
    (room : world.disk.root.HasDirectory world.disk.workingDirectory)
    (generates : Generates tools world arguments directory config)
    (succeeds : (run world arguments tools).exitCode = 0)
    (names : ∀ piece ∈ Text.pieces '/' config.generation.outputFile,
      piece ∉ Settings.configFile :: guides)
    (found : discover tools world.disk directory config = .ok (discovery, log))
    (found' : discover tools (run world arguments tools).disk directory config =
      .ok (discovery', log'))
    (differ : ∀ unit unit', unitOf discovery config = .ok unit →
      unitOf discovery' config = .ok unit' → unit.render ≠ unit'.render)
    (succeeds' : (run ⟨(run world arguments tools).disk, world.environment⟩ arguments
      tools).exitCode = 0) :
    (run ⟨(run world arguments tools).disk, world.environment⟩ arguments tools).disk.read?
        (Project.outputPath directory config.generation) ≠
      (run world arguments tools).disk.read? (Project.outputPath directory config.generation) := by
  obtain ⟨_, _, unit, -, known, made, text, unchanged | written⟩ :=
    exists_of_run room generates succeeds names
  · rw [found] at known
    rw [unchanged, found] at found'
    cases known
    cases found'
    exact absurd rfl (differ unit unit made made)
  · obtain ⟨here, output, content, grown, -⟩ := written
    have room' : (run world arguments tools).disk.root.HasDirectory
        (run world arguments tools).disk.workingDirectory := by
      rw [grown.workingDirectory]
      exact grown.keeps.kinds.hasDirectory room
    obtain ⟨_, _, unit', -, known', made', text', -⟩ :=
      exists_of_run room' (generates.of_grown grown) succeeds' names
    rw [found] at known
    rw [found'] at known'
    cases known
    cases known'
    rw [text, text']
    intro same
    exact differ unit unit' made made' (String.toByteArray_inj.mp (Option.some.inj same)).symm

/-- A generated file among the static files is found by the second run, which makes another text. -/
theorem run_again_among_static_files :
    let world : World := ⟨⟨.directory [("app", .directory [])], ["app"]⟩, fun _ => none⟩
    let arguments := ["generate", "--output", "wwwroot/R4Mvc.cs"]
    let first := run world arguments
    let second := run ⟨first.disk, world.environment⟩ arguments
    first.exitCode = 0 ∧ (second.exitCode = 0 →
      second.disk.read? "/app/wwwroot/R4Mvc.cs" ≠ first.disk.read? "/app/wwwroot/R4Mvc.cs") := by
  intro world arguments first second
  let config := withOptions {} (some "wwwroot/R4Mvc.cs") none
  let tools : Tools := {}
  have asked : Request.ofArguments arguments =
      .run ⟨none, .generate (some "wwwroot/R4Mvc.cs") none false⟩ := by decide +kernel
  have generates : Generates tools world arguments "/app" config :=
    .intro asked (by decide +kernel) (by decide +kernel)
  have succeeds : first.exitCode = 0 := by decide +kernel
  have nothing : discover tools world.disk "/app" config =
      .ok (⟨[], [], []⟩, [summary [] [] []]) := by decide +kernel
  have one : discover tools first.disk "/app" config =
      .ok (⟨[], [], [⟨"R4Mvc.cs", "R4Mvc.cs"⟩]⟩, [summary [] [] [⟨"R4Mvc.cs", "R4Mvc.cs"⟩]]) := by
    decide +kernel
  have names : ∀ piece ∈ Text.pieces '/' config.generation.outputFile,
      piece ∉ [Settings.configFile] := by decide +kernel
  have destination : Project.outputPath "/app" config.generation = "/app/wwwroot/R4Mvc.cs" := by
    decide +kernel
  have length {discovery : Discovery} {n : Nat} {unit : Declaration.CompilationUnit}
      (counted : (unitOf discovery config).map (fun unit =>
        (unit.lines.flatMap Declaration.Line.chars).length) = .ok n)
      (made : unitOf discovery config = .ok unit) : unit.render.toList.length = n := by
    rw [made] at counted
    rw [Declaration.CompilationUnit.render, String.toList_ofList]
    exact Except.ok.inj counted
  have lengths : (unitOf ⟨[], [], []⟩ config).map (fun unit =>
      (unit.lines.flatMap Declaration.Line.chars).length) = .ok 443 := by decide +kernel
  have lengths' : (unitOf ⟨[], [], [⟨"R4Mvc.cs", "R4Mvc.cs"⟩]⟩ config).map (fun unit =>
      (unit.lines.flatMap Declaration.Line.chars).length) = .ok 491 := by decide +kernel
  have room : world.disk.root.HasDirectory world.disk.workingDirectory := ⟨_, rfl⟩
  -- What is left to say holds of any project like this one.
  clear_value config arguments world
  rw [← destination]
  refine ⟨succeeds, read?_run_ne room generates succeeds names nothing one ?_⟩
  intro unit unit' made made' same
  have equal := (length lengths made).symm.trans
    ((congrArg (fun text => text.toList.length) same).trans (length lengths' made'))
  exact absurd equal (by decide)

end TypedMvc.Command
