import TypedMvc.Proofs.Regeneration
import TypedMvc.Proofs.SortedFiles

/-!
# The order of directories makes no difference

A disk gives the entries of a directory in some order, and another disk may have the same files in
another order (`Disk.Relisted`). The walk to the sources may come to its files in another order on
either. What is sorted of the files that are found is the same. All else that a run reads is read by
a path, and what it writes goes to the same place, so the same comes of each command line
(`run_relisted`). `listing_order_irrelevant` says all this at once: of other orders on the disk, and
of any order in which files are found.
-/

namespace TypedMvc.Files

open Entry

variable {disk other : Disk}

/-- Two listings of the same files: the entries of a directory may come in another order, but each
name is used once in it, and all names are names of files. -/
structure Disk.Relisted (disk other : Disk) : Prop where
  /-- The files and directories are the same. -/
  same : disk.SameFiles other
  /-- Names are used once. -/
  tree : disk.root.IsTree
  /-- Names are used once in the other listing. -/
  tree' : other.root.IsTree
  /-- The entries are called by names of files. -/
  names : disk.root.HasFileNames

/-- Below a path the same visible files are found on disks that are listed in another order. -/
theorem Disk.Relisted.perm_visibleFrom (relisted : disk.Relisted other) (path : String) :
    (visibleFrom (other.entry? path)).Perm (visibleFrom (disk.entry? path)) := by
  rw [Disk.entry?, Disk.entry?, relisted.same.locate?_eq]
  cases disk.locate? path with
  | none => exact List.Perm.refl _
  | some place =>
    exact Files.perm_visibleFrom relisted.tree relisted.tree' relisted.same.root place

end TypedMvc.Files

namespace TypedMvc.Files.Disk.Relisted

open Project

variable {disk other : Disk} {files : List Found}

/-- The views are the same in another listing, in whatever order its files come. -/
theorem viewsAmong_eq (relisted : disk.Relisted other) (locator : ViewLocator) (directory : String)
    (perm : files.Perm (visibleFrom (other.entry? (Path.join directory locator.folder)))) :
    locator.viewsAmong directory files = locator.find disk directory :=
  ViewLocator.viewsAmong_eq_of_perm relisted.tree relisted.names
    (perm.trans (relisted.perm_visibleFrom _))

/-- The static files are the same in another listing, in whatever order its files come. -/
theorem staticAmong_eq (relisted : disk.Relisted other) (locator : StaticLocator)
    (directory : String)
    (perm : files.Perm (visibleFrom (other.entry? (Path.join directory locator.folder)))) :
    locator.staticAmong files = locator.find disk directory :=
  StaticLocator.staticAmong_eq_of_perm relisted.tree relisted.names
    (perm.trans (relisted.perm_visibleFrom _))

/-- The views of a project are the same in another listing. -/
theorem views_eq (relisted : disk.Relisted other) (locator : ViewLocator) (directory : String) :
    locator.find other directory = locator.find disk directory :=
  (locator.find_eq other directory).trans
    (relisted.viewsAmong_eq locator directory (List.Perm.refl _))

/-- The static files of a project are the same in another listing. -/
theorem static_eq (relisted : disk.Relisted other) (locator : StaticLocator) (directory : String) :
    locator.find other directory = locator.find disk directory :=
  (locator.find_eq other directory).trans
    (relisted.staticAmong_eq locator directory (List.Perm.refl _))

end TypedMvc.Files.Disk.Relisted

namespace TypedMvc.Command

open Files Project

variable {tools : Tools} {walk : Walker} {disk other : Disk}

/-! ## Runs -/

/-- The same comes of two runs: they print and log the same, end in the same way, and leave the same
files. -/
structure SameOutcome (outcome other : Outcome) : Prop where
  /-- The exit codes are the same. -/
  exitCode : other.exitCode = outcome.exitCode
  /-- The same is printed. -/
  output : other.output = outcome.output
  /-- The same is logged. -/
  log : other.log = outcome.log
  /-- The runs fail for the same reason, if they fail. -/
  failure : other.failure = outcome.failure
  /-- The files are the same. -/
  disk : outcome.disk.SameFiles other.disk

/-- The same comes of runs that end alike without a change to the files. -/
theorem finish_same (same : disk.SameFiles other) (log : List LogLine)
    (result : Except Failure String) :
    SameOutcome (finish disk log result) (finish other log result) := by
  cases result <;> exact ⟨rfl, rfl, rfl, rfl, same⟩

/-- The same comes of writing the same text. -/
theorem writeOutput_same (same : disk.SameFiles other) (system : System) (directory : String)
    (config : Settings.Config) (log : List LogLine) (text : String) :
    SameOutcome (writeOutput system disk directory config log text)
      (writeOutput system other directory config log text) := by
  unfold writeOutput
  dsimp only
  generalize outputPath directory config.generation = destination
  obtain ⟨files, result⟩ := write_same same text destination system
  generalize write disk text destination system = written,
    write other text destination system = written' at files result ⊢
  obtain ⟨after, result'⟩ := written
  obtain ⟨after', _⟩ := written'
  cases result
  cases result' with
  | error fault => exact ⟨rfl, rfl, rfl, rfl, files⟩
  | ok done => cases done <;> exact ⟨rfl, rfl, rfl, rfl, files⟩

/-- The directory of a project is the same. -/
theorem projectDirectory_same (same : disk.SameFiles other) (project : Option String) :
    projectDirectory other project = projectDirectory disk project := by
  simp only [projectDirectory, currentDirectory, same.workingDirectory, same.isFile_eq,
    same.isDirectory_eq]
  rfl

section Run

variable (relisted : disk.Relisted other)
  (perm : ∀ here, (walk other.root here).Perm (tools.walk disk.root here))

include relisted perm

/-- The same is found in another listing, by a walk in another order. -/
theorem discover_relisted (directory : String) (config : Settings.Config) :
    discover { tools with walk } other directory config = discover tools disk directory config := by
  simp only [discover, discoverViews, discoverStaticFiles, List.flatMap_cons, List.flatMap_nil,
    collectSources_eq_of_perm relisted.same perm, relisted.views_eq, relisted.static_eq]

/-- The same file is generated in another listing. -/
theorem runGenerate_relisted (directory : String) (config : Settings.Config) (dryRun : Bool) :
    SameOutcome (runGenerate tools disk directory config dryRun)
      (runGenerate { tools with walk } other directory config dryRun) := by
  rw [runGenerate, runGenerate, discover_relisted relisted perm]
  cases config.fault? with
  | some fault => exact finish_same relisted.same _ _
  | none =>
    dsimp only
    cases discover tools disk directory config with
    | error malformed => exact finish_same relisted.same _ _
    | ok found =>
      dsimp only
      cases unitOf found.1 config with
      | error failure => exact finish_same relisted.same _ _
      | ok unit =>
        dsimp only
        split
        · exact finish_same relisted.same _ _
        · exact writeOutput_same relisted.same tools.system directory config found.2 unit.render

/-- The same is printed of another listing. -/
theorem runInspect_relisted (directory : String) (config : Settings.Config) (tree : Bool) :
    SameOutcome (runInspect tools disk directory config tree)
      (runInspect { tools with walk } other directory config tree) := by
  rw [runInspect, runInspect, discover_relisted relisted perm]
  cases discover tools disk directory config with
  | error malformed => exact finish_same relisted.same _ _
  | ok found =>
    dsimp only
    split <;> exact finish_same relisted.same _ _

/-- The same comes of a command line in another listing. -/
theorem run_relisted (environment : String → Option String) (arguments : List String) :
    SameOutcome (run ⟨disk, environment⟩ arguments tools)
      (run ⟨other, environment⟩ arguments { tools with walk }) := by
  -- Up to writing a run only reads by paths, which lead to the same on both disks.
  rw [run, run]
  cases Request.ofArguments arguments with
  | help => exact finish_same relisted.same _ _
  | refused => exact ⟨rfl, rfl, rfl, rfl, relisted.same⟩
  | run request =>
    dsimp only
    rw [runArguments, runArguments]
    dsimp only
    rw [projectDirectory_same relisted.same]
    cases projectDirectory disk request.project with
    | error failure => exact finish_same relisted.same _ _
    | ok directory =>
      dsimp only
      rw [relisted.same.loadFrom_eq]
      cases Settings.Config.loadFrom disk directory (.ofEnvironment environment)
          tools.valueOf? with
      | error error => exact finish_same relisted.same _ _
      | ok config =>
        dsimp only
        cases request.task with
        | generate output namespaceName dryRun => exact runGenerate_relisted relisted perm _ _ _
        | inspect tree => exact runInspect_relisted relisted perm _ _ _

end Run

/-- Nothing depends on the order in which the entries of directories come, nor on that in which a
walk comes to the files. Sources, views and static files are the same lists, or sources fail with
the same error, whatever the order of the entries on the disk and of the files that are found; and
the same comes of every command line, with the same bytes in every file afterwards. -/
theorem listing_order_irrelevant (relisted : disk.Relisted other) (tools : Tools) (walk : Walker)
    (perm : ∀ here, (walk other.root here).Perm (tools.walk disk.root here)) :
    (∀ directory exclude outputFile,
      collectSources other directory exclude outputFile walk tools.readPattern =
        collectSources disk directory exclude outputFile tools.walk tools.readPattern) ∧
      (∀ (locator : ViewLocator) directory,
        locator.find other directory = locator.find disk directory ∧
          ∀ files : List Found,
            files.Perm (visibleFrom (other.entry? (Path.join directory locator.folder))) →
            locator.viewsAmong directory files = locator.find disk directory) ∧
      (∀ (locator : StaticLocator) directory,
        locator.find other directory = locator.find disk directory ∧
          ∀ files : List Found,
            files.Perm (visibleFrom (other.entry? (Path.join directory locator.folder))) →
            locator.staticAmong files = locator.find disk directory) ∧
      ∀ environment arguments,
        let outcome := run ⟨disk, environment⟩ arguments tools
        let outcome' := run ⟨other, environment⟩ arguments { tools with walk }
        SameOutcome outcome outcome' ∧
          ∀ path, outcome'.disk.read? path = outcome.disk.read? path := by
  refine ⟨fun directory exclude outputFile => ?_,
    fun locator directory => ⟨?_, fun files perm => ?_⟩,
    fun locator directory => ⟨?_, fun files perm => ?_⟩, fun environment arguments => ?_⟩
  · exact collectSources_eq_of_perm relisted.same perm tools.readPattern directory exclude
      outputFile
  · exact relisted.views_eq locator directory
  · exact relisted.viewsAmong_eq locator directory perm
  · exact relisted.static_eq locator directory
  · exact relisted.staticAmong_eq locator directory perm
  · have same := run_relisted relisted perm environment arguments
    exact ⟨same, same.disk.read?_eq⟩

/-- The same file is generated of a project whose directories are listed backwards. -/
theorem listing_order_irrelevant_backwards :
    let file : Entry := .file .empty
    let home : List (String × Entry) := [("Index.cshtml", file), ("About.cshtml", file)]
    let project (home : List (String × Entry)) : List (String × Entry) :=
      [("Views", .directory [("Home", .directory home)]), ("A.txt", file),
        ("wwwroot", .directory [("site.css", file)])]
    let disk : Disk := ⟨.directory (project home), []⟩
    let other : Disk := ⟨.directory (project home.reverse).reverse, []⟩
    let views := ViewLocator.ofFolder "Views" ["cshtml"]
    let after (disk : Disk) := run ⟨disk, fun _ => none⟩ ["generate"]
    disk.Relisted other ∧
      (∀ here, (ruledWalk other.root here).Perm (ruledWalk disk.root here)) ∧
      (visibleFrom (other.entry? "/Views")).map Found.path ≠
        (visibleFrom (disk.entry? "/Views")).map Found.path ∧
      views.find other "/" = views.find disk "/" ∧
      (after disk).exitCode = 0 ∧
      (after other).disk.read? "/R4Mvc.generated.cs" =
        (after disk).disk.read? "/R4Mvc.generated.cs" := by
  intro file home project disk other views after
  -- The views are turned round first, then everything beside them.
  have homeSame : (Entry.directory home).SameTree (.directory home.reverse) :=
    Entry.sameTree_of_perm (by decide) (List.reverse_perm home).symm
  have viewsSame : (Entry.directory [("Home", .directory home)]).SameTree
      (.directory [("Home", .directory home.reverse)]) :=
    Entry.sameTree_of_entry homeSame [] [] "Home"
  have same : disk.root.SameTree other.root :=
    (Entry.sameTree_of_entry viewsSame [] _ "Views").trans
      (Entry.sameTree_of_perm (by decide) (List.reverse_perm (project home.reverse)).symm)
  have tree (home : List (String × Entry)) (isTree : (Entry.directory home).IsTree) :
      ∀ named ∈ project home, named.2.IsTree := by
    simp only [project, List.forall_mem_cons]
    refine ⟨?_, .file _, ?_, List.forall_mem_nil _⟩
    · exact .directory (by simp) (List.forall_mem_singleton.mpr isTree)
    · exact .directory (by simp) (List.forall_mem_singleton.mpr (.file _))
  have files : ∀ named ∈ home, named.2 = file := by simp [home]
  have homeTree : (Entry.directory home).IsTree :=
    .directory (by decide) fun named mem => files named mem ▸ .file _
  have names : disk.root.HasFileNames := by
    refine .directory (by decide) ?_
    simp only [project, List.forall_mem_cons]
    refine ⟨.directory (by decide) (List.forall_mem_singleton.mpr ?_), .file _, ?_,
      List.forall_mem_nil _⟩
    · exact .directory (by decide) fun named mem => files named mem ▸ .file _
    · exact .directory (by decide) (List.forall_mem_singleton.mpr (.file _))
  have relisted : disk.Relisted other := by
    refine ⟨⟨rfl, same⟩, .directory (by decide) (tree home homeTree), ?_, names⟩
    have backwards := homeTree.of_perm (List.reverse_perm home).symm
    exact (Entry.IsTree.directory (by decide) (tree home.reverse backwards)).of_perm
      (List.reverse_perm (project home.reverse)).symm
  have perm : ∀ here, (ruledWalk other.root here).Perm (ruledWalk disk.root here) :=
    perm_ruledWalk relisted.tree relisted.tree' relisted.same.root
  obtain ⟨-, found, -, runs⟩ := listing_order_irrelevant relisted {} ruledWalk perm
  exact ⟨relisted, perm, by decide +kernel, (found views "/").1, by decide +kernel,
    (runs (fun _ => none) ["generate"]).2 "/R4Mvc.generated.cs"⟩

end TypedMvc.Command
