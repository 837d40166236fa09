import TypedMvc.Proofs.ChangedPlaces
import TypedMvc.Proofs.Regeneration

/-!
# What a run changes

A run changes the files only if it comes to write its text (`ComesToWrite`): a command line that is
refused, one that only shows something, and one that fails before that leave everything as it is
(`run_disk_of_not_comesToWrite`). Of a run that comes to write `run_changes` tells what may be
different afterwards, whatever the system does: the file that the output path leads to, and
directories above it that are new. They are left behind if the file cannot be written after they
were made, which `run_leaves_directory` shows for an output path with a step up. A file is left with
the beginning of the text if the system breaks off while it writes.
-/

namespace TypedMvc.Command

open Files

variable {tools : Tools} {world : World} {disk : Disk} {arguments : List String}
  {directory text : String} {config : Settings.Config}

/-! ## Runs that come to write -/

/-- A command line that comes to write a text to the output path of a project's configuration: the
file is generated and not only printed, the settings are valid, the sources are read, and no names
collide. -/
inductive ComesToWrite (tools : Tools) (world : World) (arguments : List String) :
    String → Settings.Config → String → Prop where
  /-- The text is that of what is found in the project. -/
  | intro {directory : String} {config : Settings.Config} {discovery : Discovery}
      {log : List LogLine} {unit : Declaration.CompilationUnit}
      (generates : Generates tools world arguments directory config)
      (valid : config.fault? = none)
      (found : discover tools world.disk directory config = .ok (discovery, log))
      (made : unitOf discovery config = .ok unit) :
      ComesToWrite tools world arguments directory config unit.render

/-- A run that comes to write ends with what comes of writing. -/
theorem ComesToWrite.run_eq (comes : ComesToWrite tools world arguments directory config text) :
    ∃ log, run world arguments tools =
      writeOutput tools.system world.disk directory config log text := by
  obtain ⟨generates, valid, found, made⟩ := comes
  exact ⟨_, generates.run_eq.trans (runGenerate_eq_writeOutput valid found made)⟩

/-- A run that comes to write leaves the files as writing leaves them, and fails if writing does. -/
theorem ComesToWrite.run_disk (comes : ComesToWrite tools world arguments directory config text) :
    let wrote := Project.write world.disk text (Project.outputPath directory config.generation)
      tools.system
    (run world arguments tools).disk = wrote.1 ∧
      ((∃ changed, wrote.2 = .ok changed) ∧ (run world arguments tools).exitCode = 0 ∨
        (∃ error, wrote.2 = .error error) ∧ (run world arguments tools).exitCode = 1) := by
  obtain ⟨log, ends⟩ := comes.run_eq
  intro wrote
  have same : Project.write world.disk text (Project.outputPath directory config.generation)
      tools.system = wrote := rfl
  rw [ends]
  unfold writeOutput
  dsimp only
  rw [same]
  obtain ⟨after, result⟩ := wrote
  cases result with
  | error error => exact ⟨rfl, Or.inr ⟨⟨error, rfl⟩, rfl⟩⟩
  | ok changed => cases changed <;> exact ⟨rfl, Or.inl ⟨⟨_, rfl⟩, rfl⟩⟩

/-! ## Runs that do not -/

/-- What is printed and what fails leaves everything as it is. -/
theorem finish_disk (disk : Disk) (log : List LogLine) (result : Except Failure String) :
    (finish disk log result).disk = disk := by
  cases result <;> rfl

/-- Showing what was found leaves everything as it is. -/
theorem runInspect_disk (disk : Disk) (directory : String) (config : Settings.Config)
    (tree : Bool) : (runInspect tools disk directory config tree).disk = disk := by
  unfold runInspect
  split
  · exact finish_disk ..
  · split <;> exact finish_disk ..

/-- Generating leaves everything as it is if the text is only printed, or if there is none. -/
theorem runGenerate_disk {dryRun : Bool}
    (quiet : dryRun = true ∨ ¬ ∃ discovery log unit, config.fault? = none ∧
      discover tools disk directory config = .ok (discovery, log) ∧
      unitOf discovery config = .ok unit) :
    (runGenerate tools disk directory config dryRun).disk = disk := by
  unfold runGenerate
  split
  · exact finish_disk ..
  · rename_i valid
    split
    · exact finish_disk ..
    · rename_i discovery log found
      split
      · exact finish_disk ..
      · rename_i unit made
        obtain isDry | nothing := quiet
        · rw [if_pos isDry]
          exact finish_disk ..
        · exact absurd ⟨discovery, log, unit, valid, found, made⟩ nothing

/-- A run that does not come to write leaves everything as it is. -/
theorem run_disk_of_not_comesToWrite
    (no : ¬ ∃ directory config text, ComesToWrite tools world arguments directory config text) :
    (run world arguments tools).disk = world.disk := by
  -- Each stage can end the run without a change, and the next one has its result.
  unfold run
  cases asked : Request.ofArguments arguments with
  | help => rfl
  | refused => rfl
  | run given =>
    obtain ⟨project, task⟩ := given
    dsimp only
    unfold runArguments
    dsimp only
    cases located : projectDirectory world.disk project with
    | error failure => rfl
    | ok directory =>
      dsimp only
      cases loaded : Settings.Config.loadFrom world.disk directory
          (.ofEnvironment world.environment) tools.valueOf? with
      | error error => rfl
      | ok config =>
        cases task with
        | inspect tree => exact runInspect_disk ..
        | generate output namespaceName dryRun =>
          apply runGenerate_disk
          cases dryRun with
          | true => exact Or.inl rfl
          | false =>
            right
            rintro ⟨discovery, log, unit, valid, found, made⟩
            have generates : Generates tools world arguments directory
                (withOptions config output namespaceName) := .intro asked located loaded
            exact no ⟨_, _, _, .intro generates valid found made⟩

/-! ## What may be different -/

/-- After a run everything is as it was, unless the run comes to write. Then the working directory
is the same one, and every place is the same but for

* directories above the output path that are new, whether the run fails or not;
* the place that the output path leads to. If the run succeeds it holds the text. If the run fails
  it is the same as well, or the system broke off while it wrote there, and it holds what was
  written until then, a part of the text from its beginning. -/
theorem run_changes (tools : Tools) (world : World) (arguments : List String) :
    let after := run world arguments tools
    ((¬ ∃ directory config text, ComesToWrite tools world arguments directory config text) →
      after.disk = world.disk) ∧
    ∀ directory config text, ComesToWrite tools world arguments directory config text →
      let destination := Project.outputPath directory config.generation
      after.disk.workingDirectory = world.disk.workingDirectory ∧
      (after.exitCode ≠ 0 → ∀ place, world.disk.IsKeptOrAbove after.disk destination place ∨
        ∃ count message, tools.system.file place = .breaksOff count message ∧
          after.disk.locate? destination = some place ∧
          after.disk.root.at? place = some (.file (text.toUTF8.extract 0 count))) ∧
      (after.exitCode = 0 → ∃ output, after.disk.locate? destination = some output ∧
        after.disk.root.at? output = some (.file text.toUTF8) ∧
        ∀ place, place ≠ output → world.disk.IsKeptOrAbove after.disk destination place) := by
  refine ⟨run_disk_of_not_comesToWrite, fun directory config text comes => ?_⟩
  dsimp only
  -- What the run leaves is what writing leaves.
  obtain ⟨disk, ending⟩ := comes.run_disk
  rw [disk]
  refine ⟨Project.workingDirectory_write .., fun fails => ?_, fun succeeds => ?_⟩
  · obtain ⟨-, isZero⟩ | ⟨⟨error, failed⟩, -⟩ := ending
    · exact absurd isZero fails
    · exact Project.write_error_changes failed
  · obtain ⟨⟨changed, done⟩, -⟩ | ⟨-, isOne⟩ := ending
    · exact Project.write_ok_changes done
    · rw [succeeds] at isOne
      cases isOne

/-- A run whose output path goes up from a directory that is missing fails, and leaves the directory
behind. -/
theorem run_leaves_directory :
    let world : World := ⟨⟨.directory [("app", .directory [])], ["app"]⟩, fun _ => none⟩
    let outcome := run world ["generate", "--output", "new/.."]
    outcome.exitCode = 1 ∧
      outcome.failure = some ⟨"failed to write /app/new/..", some Obstacle.isADirectory.message⟩ ∧
      world.disk.root.at? ["app", "new"] = none ∧
      outcome.disk.isDirectory "/app/new" = true ∧ outcome.disk ≠ world.disk := by
  intro world outcome
  have there : outcome.disk.isDirectory "/app/new" = true := by decide +kernel
  have nowhere : world.disk.isDirectory "/app/new" = false := by decide +kernel
  refine ⟨by decide +kernel, by decide +kernel, rfl, there, ?_⟩
  intro same
  rw [same, nowhere] at there
  cases there

end TypedMvc.Command
