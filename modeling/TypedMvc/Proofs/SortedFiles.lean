import TypedMvc.Proofs.StableScans

/-!
# Lists of files that do not depend on the order of a walk

Sources, views and static files are what is left of the files of a walk, in the order of a key of
their own. Each key tells the files of a walk apart: a source has its path as the key, and the paths
of static files and of views are texts from which the names on the way to the file are read back
(`Text.pieces_join`, `ViewLocator.eq_of_pathFrom_eq`). So the lists are the same in every order of
the files (`collectSources_eq_of_perm`, `ViewLocator.viewsAmong_eq_of_perm`,
`StaticLocator.staticAmong_eq_of_perm`); and as sources are read only after they are sorted, the
same file is at fault if one cannot be read.
-/

namespace TypedMvc.Project

open Files Model Symbols

variable {disk : Disk} {directory : String} {files : List Found}

/-! ## Sources -/

/-- The sources do not depend on the order in which a walk comes to the files of the project, nor on
the order of entries on the disk. -/
theorem collectSources_eq_of_perm {other : Disk} {walk walk' : Walker}
    (same : disk.SameFiles other)
    (perm : ∀ here, (walk' other.root here).Perm (walk disk.root here))
    (readPattern : PatternReader) (directory : String) (exclude : List String)
    (outputFile : String) :
    collectSources other directory exclude outputFile walk' readPattern =
      collectSources disk directory exclude outputFile walk readPattern := by
  have sorted (here : List String) (keep : Found → Bool) :
      ((walk'.files other.root here).filter keep).mergeSort pathLe =
        ((walk.files disk.root here).filter keep).mergeSort pathLe :=
    mergeSort_files_eq_of_perm ((Walker.perm_files same.root (perm here)).filter keep)
  simp only [collectSources, same.locate?_eq, sorted]

/-! ## Views -/

namespace ViewLocator

variable {locator : ViewLocator}

/-- A folder that is given by a relative path has the steps of the directory in front of its own. -/
theorem prefix_components_join (directory : String) {folder : String}
    (relative : Path.isAbsolute folder = false) :
    Path.components directory <+: Path.components (Path.join directory folder) := by
  by_cases empty : directory = ""
  · have alone : Path.components "" = [] := by decide
    rw [empty, alone]
    exact List.nil_prefix
  · rw [Path.components_join empty relative]
    exact List.prefix_append _ _

/-- The steps of a path from the project's directory. -/
def stepsFrom (start steps : List Component) : List Component :=
  if start.isPrefixOf steps then steps.drop start.length else steps

/-- Steps from the project's directory are steps. -/
theorem areSteps_stepsFrom {steps : List Component} (start : List Component)
    (are : Path.AreSteps steps) : Path.AreSteps (stepsFrom start steps) := by
  rw [stepsFrom]
  split
  · exact are.drop _
  · exact are

/-- Steps that begin with those of the directory are told apart by what they are from there. -/
theorem stepsFrom_append {start steps : List Component} (begins : start <+: steps) :
    start ++ stepsFrom start steps = steps := by
  obtain ⟨rest, rfl⟩ := begins
  rw [stepsFrom, if_pos (List.isPrefixOf_iff_prefix.mpr (List.prefix_append _ _)), List.drop_left]

/-- Steps that do not begin with those of the directory stay as they are. -/
theorem stepsFrom_eq_self {start steps : List Component} (other : ¬ start <+: steps) :
    stepsFrom start steps = steps := by
  rw [stepsFrom, if_neg (mt List.isPrefixOf_iff_prefix.mp other)]

/-- A path below the folder does not begin with the steps of the directory if one behind it is what
another path below the folder is from the directory. -/
theorem prefix_of_stepsFrom_eq {folder : String} {own other : List Component}
    (are : Path.AreSteps (Path.components (Path.join directory folder) ++ own))
    (begins : Path.components directory <+: Path.components (Path.join directory folder) ++ own)
    (same : stepsFrom (Path.components directory)
        (Path.components (Path.join directory folder) ++ own) =
      Path.components (Path.join directory folder) ++ other) :
    Path.components directory <+: Path.components (Path.join directory folder) ++ other := by
  cases absolute : Path.isAbsolute folder with
  | false =>
    exact (prefix_components_join directory absolute).trans (List.prefix_append _ _)
  | true =>
    -- The folder begins at the root, which is no step further on.
    have whole : Path.join directory folder = folder := by simp [Path.join, absolute]
    obtain ⟨rest, root⟩ := Path.exists_root_cons absolute
    have split := stepsFrom_append begins
    rw [same, whole, root] at split
    rw [whole, root] at are
    cases start : Path.components directory with
    | nil => exact List.nil_prefix
    | cons first further =>
      rw [start] at split
      have later : Component.root ∈ (Component.root :: rest ++ own).tail := by
        rw [← split, List.cons_append, List.tail_cons, List.cons_append]
        exact List.mem_append_right further List.mem_cons_self
      exact (are.tail _ later).elim

/-- Files below the folder have different paths from the directory. -/
theorem eq_of_pathFrom_eq {folder : String} {names names' : List String} (nonempty : names ≠ [])
    (nonempty' : names' ≠ []) (fileNames : ∀ name ∈ names, IsFileName name)
    (fileNames' : ∀ name ∈ names', IsFileName name)
    (same : pathFrom directory (Path.join (Path.join directory folder) (Text.join "/" names)) =
      pathFrom directory (Path.join (Path.join directory folder) (Text.join "/" names'))) :
    names = names' := by
  have steps := Path.components_join_names (Path.join directory folder) nonempty fileNames
  have steps' := Path.components_join_names (Path.join directory folder) nonempty' fileNames'
  have are := Path.areSteps_components
    (Path.join (Path.join directory folder) (Text.join "/" names))
  have are' := Path.areSteps_components
    (Path.join (Path.join directory folder) (Text.join "/" names'))
  -- The steps from the directory are read back from the paths.
  have fromStart := congrArg Path.components same
  change Path.components (Text.join "/" ((stepsFrom _ _).map Component.text)) =
    Path.components (Text.join "/" ((stepsFrom _ _).map Component.text)) at fromStart
  rw [Path.components_text (areSteps_stepsFrom _ are),
    Path.components_text (areSteps_stepsFrom _ are'), steps, steps'] at fromStart
  rw [steps] at are
  rw [steps'] at are'
  have whole : Path.components (Path.join directory folder) ++ names.map Component.entry =
      Path.components (Path.join directory folder) ++ names'.map Component.entry := by
    by_cases begins : Path.components directory <+:
        Path.components (Path.join directory folder) ++ names.map Component.entry
    · have begins' : Path.components directory <+:
          Path.components (Path.join directory folder) ++ names'.map Component.entry := by
        by_contra other
        rw [stepsFrom_eq_self other] at fromStart
        exact other (prefix_of_stepsFrom_eq are begins fromStart)
      rw [← stepsFrom_append begins, fromStart, stepsFrom_append begins']
    · have other' : ¬ Path.components directory <+:
          Path.components (Path.join directory folder) ++ names'.map Component.entry := by
        intro begins'
        rw [stepsFrom_eq_self begins] at fromStart
        exact begins (prefix_of_stepsFrom_eq are' begins' fromStart.symm)
      rwa [stepsFrom_eq_self begins, stepsFrom_eq_self other'] at fromStart
  exact List.map_injective_iff.mpr (fun _ _ same => Component.entry.inj same)
    (List.append_cancel_left whole)

/-- The views among the files below the folder, in whatever order these come. -/
def viewsAmong (locator : ViewLocator) (directory : String) (files : List Found) : List View :=
  (files.filterMap (locator.viewOf? directory)).mergeSort viewLe

/-- What view a file is depends on its path only, and the path of the view does so too. -/
theorem viewOf?_eq_some {found : Found} {view : View}
    (isView : locator.viewOf? directory found = some view) :
    (∀ other : Found, other.path = found.path → locator.viewOf? directory other = some view) ∧
      view.relativePath = pathFrom directory
        (Path.join (Path.join directory locator.folder) (Text.join "/" found.path)) := by
  constructor
  · rintro ⟨path, content⟩ same
    dsimp only at same
    rw [same]
    exact isView
  · rw [viewOf?] at isView
    split at isView
    · split at isView
      · cases isView
        rfl
      · cases isView
    · cases isView

/-- The views do not depend on the order in which the files below the folder come. -/
theorem viewsAmong_eq_of_perm (tree : disk.root.IsTree) (names : disk.root.HasFileNames)
    (perm : files.Perm (visibleFrom (disk.entry? (Path.join directory locator.folder)))) :
    locator.viewsAmong directory files = locator.find disk directory := by
  rw [find_eq, viewsAmong]
  refine mergeSort_eq_of_perm sorts_text View.relativePath (perm.filterMap _)
    fun a mem b mem' same => ?_
  obtain ⟨found, inside, isView⟩ := List.mem_filterMap.mp mem
  obtain ⟨found', inside', isView'⟩ := List.mem_filterMap.mp mem'
  obtain ⟨further, fileNames⟩ := Disk.isFileName_of_mem tree names (perm.mem_iff.mp inside)
  obtain ⟨further', fileNames'⟩ := Disk.isFileName_of_mem tree names (perm.mem_iff.mp inside')
  obtain ⟨byPath, path⟩ := viewOf?_eq_some isView
  rw [path, (viewOf?_eq_some isView').2] at same
  have paths := eq_of_pathFrom_eq further further' fileNames fileNames' same
  exact Option.some.inj ((byPath found' paths.symm).symm.trans isView')

end ViewLocator

/-! ## Static files -/

namespace StaticLocator

variable {locator : StaticLocator}

/-- The static files among the files below the folder, in whatever order these come. -/
def staticAmong (locator : StaticLocator) (files : List Found) : List StaticFile :=
  (files.filterMap locator.fileOf?).mergeSort fileLe

/-- A static file has the name and the path of the file that it is. -/
theorem fileOf?_eq_some {found : Found} {file : StaticFile}
    (isFile : locator.fileOf? found = some file) :
    file = ⟨found.path.getLastD "", Text.join "/" found.path⟩ := by
  rw [fileOf?] at isFile
  split at isFile
  · cases isFile
  · exact (Option.some.inj isFile).symm

/-- The static files do not depend on the order in which the files below the folder come. -/
theorem staticAmong_eq_of_perm (tree : disk.root.IsTree) (names : disk.root.HasFileNames)
    (perm : files.Perm (visibleFrom (disk.entry? (Path.join directory locator.folder)))) :
    locator.staticAmong files = locator.find disk directory := by
  rw [find_eq, staticAmong]
  refine mergeSort_eq_of_perm sorts_text StaticFile.relativePath (perm.filterMap _)
    fun a mem b mem' same => ?_
  obtain ⟨found, inside, isFile⟩ := List.mem_filterMap.mp mem
  obtain ⟨found', inside', isFile'⟩ := List.mem_filterMap.mp mem'
  obtain ⟨further, fileNames⟩ := Disk.isFileName_of_mem tree names (perm.mem_iff.mp inside)
  obtain ⟨further', fileNames'⟩ := Disk.isFileName_of_mem tree names (perm.mem_iff.mp inside')
  rw [fileOf?_eq_some isFile, fileOf?_eq_some isFile'] at same ⊢
  -- The names on the way are the pieces of the path.
  have pieces := congrArg (Text.pieces '/') same
  rw [Text.pieces_join further fun name mem => (fileNames name mem).whole,
    Text.pieces_join further' fun name mem => (fileNames' name mem).whole] at pieces
  rw [pieces]

end StaticLocator

end TypedMvc.Project
