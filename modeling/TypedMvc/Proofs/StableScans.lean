import TypedMvc.Project.Sources
import TypedMvc.Project.StaticFiles
import TypedMvc.Project.Views
import TypedMvc.Proofs.FileWrites
import TypedMvc.Proofs.SortedLists
import TypedMvc.Proofs.StableWalks
import TypedMvc.Settings.Load

/-!
# What a project holds after its file was written

The four scanners of a project read the same disk, and a file is written onto it. Each of them finds
the same as before under a condition of its own. The configuration is the same if no name in the
path of the file is that of the document (`Disk.Grown.loadFrom_eq`), and the sources are if none is
a name that the walk to them goes by (`collectSources_eq_of_grown`): the written file itself is left
out by its place. For views and static files nothing does that. They are the same if the file was
there before, and otherwise only if it lies where it is neither (`ViewLocator.find_eq_of_grown`,
`StaticLocator.find_eq_of_grown`).
-/

namespace TypedMvc.Files

open Entry

/-- Who passes over one element more counts fewer. -/
theorem length_filterMap_lt {α β : Type} {f g : α → Option β} {l : List α} {a : α} (mem : a ∈ l)
    (passes : ∀ b, f b = none ∨ f b = g b) (passed : f a = none) (counts : (g a).isSome = true) :
    (l.filterMap f).length < (l.filterMap g).length := by
  have mono (rest : List α) :
      rest.countP (fun b => (f b).isSome) ≤ rest.countP fun b => (g b).isSome := by
    refine List.countP_mono_left fun b _ kept => ?_
    rcases passes b with none | same
    · simp [none] at kept
    · rwa [same] at kept
  obtain ⟨front, behind, rfl⟩ := List.append_of_mem mem
  have front_le := mono front
  have behind_le := mono behind
  simp only [List.length_filterMap_eq_countP, List.countP_append, List.countP_cons, passed, counts]
  simp only [Option.isSome_none, Bool.false_eq_true, if_false, if_true]
  omega

/-- A disk on which no directory has two entries of one name, and the program is in a directory. -/
structure Disk.IsWellFormed (disk : Disk) : Prop where
  /-- Names are used once. -/
  tree : disk.root.IsTree
  /-- The program is in a directory. -/
  workingDirectory : disk.root.HasDirectory disk.workingDirectory

/-- A disk onto which a file was written below a directory, with nothing new under the name of the
document with the configuration, nor under those of the guides of a walk. -/
structure Disk.Grown (before after : Disk) (directory : String) (here output : List String)
    (guides : List String) : Prop where
  /-- The directory is there. -/
  located : before.locate? directory = some here
  /-- It is a directory. -/
  isDirectory : before.root.HasDirectory here
  /-- The program is at the same place. -/
  workingDirectory : after.workingDirectory = before.workingDirectory
  /-- The tree has grown. -/
  grows : Grows (Settings.configFile :: guides) output before.root after.root

namespace Disk.Grown

variable {before after : Disk} {directory folder : String} {here output guides : List String}
  {β : Type}

/-- What was there is there, each thing of its kind. -/
theorem keeps (grown : before.Grown after directory here output guides) : before.Keeps after :=
  ⟨grown.workingDirectory, Grows.keepsKinds grown.grows⟩

/-- Below a folder of the project the same visible files count as before, if the written file counts
the same there. The folder was there, or its path has no step up. -/
theorem filterMap_visible {keep : Found → Option β}
    (grown : before.Grown after directory here output guides)
    (steady : (before.locate? (Path.join directory folder)).isSome = true ∨
      ".." ∉ Text.pieces '/' folder)
    (alike : ∀ place rest, after.locate? (Path.join directory folder) = some place →
      rest ≠ [] → place ++ rest = output → (∀ name ∈ rest, isHidden name = false) →
        CountsAlike keep before.root output rest) :
    (visibleFrom (after.entry? (Path.join directory folder))).filterMap keep =
      (visibleFrom (before.entry? (Path.join directory folder))).filterMap keep := by
  cases later : after.locate? (Path.join directory folder) with
  | none =>
    have sooner : before.locate? (Path.join directory folder) = none := by
      cases sooner : before.locate? (Path.join directory folder) with
      | none => rfl
      | some place => exact absurd (grown.keeps.locate?_eq sooner) (by simp [later])
    rw [Disk.entry?, later, Disk.entry?, sooner]
    rfl
  | some place =>
    have same := grown.grows.filterMap_visible fun rest => alike place rest later
    rw [Disk.entry?, later, Option.bind_some, same]
    cases sooner : before.locate? (Path.join directory folder) with
    | some place' =>
      obtain rfl := grown.keeps.place_eq sooner later
      rw [Disk.entry?, sooner, Option.bind_some]
    | none =>
      have noUp : ".." ∉ Text.pieces '/' folder := by simpa [sooner] using steady
      -- The folder is new, so its place held no directory before.
      have noDirectory : ¬ before.root.HasDirectory place := fun there => by
        have back := grown.keeps.locate?_join_back grown.located noUp later there
        rw [sooner] at back
        cases back
      rw [visibleFrom, filesFrom_of_not_hasDirectory noDirectory, Disk.entry?, sooner]
      rfl

/-- At the place of a folder no fewer visible files count than below its path, which may not have
led anywhere before. -/
theorem length_filterMap_entry?_le {keep : Found → Option β} {place : List String}
    (grown : before.Grown after directory here output guides)
    (located : after.locate? (Path.join directory folder) = some place) :
    ((visibleFrom (before.entry? (Path.join directory folder))).filterMap keep).length ≤
      ((visibleFrom (before.root.at? place)).filterMap keep).length := by
  cases sooner : before.locate? (Path.join directory folder) with
  | none =>
    rw [Disk.entry?, sooner]
    exact Nat.zero_le _
  | some place' =>
    obtain rfl := grown.keeps.place_eq sooner located
    have same : before.entry? (Path.join directory folder) = before.root.at? place := by
      rw [Disk.entry?, sooner, Option.bind_some]
    exact Nat.le_of_eq (by rw [same])

/-- Below a folder of the project more visible files count than before, if the written file is new
and counts there. -/
theorem length_filterMap_visible_lt {keep : Found → Option β} {content : ByteArray}
    {place rest : List String} (grown : before.Grown after directory here output guides)
    (tree : before.root.IsTree) (free : before.root.at? output = none)
    (written : after.root.at? output = some (.file content))
    (located : after.locate? (Path.join directory folder) = some place)
    (isOutput : output = place ++ rest) (further : rest ≠ [])
    (visible : ∀ name ∈ rest, isHidden name = false)
    (counts : (keep ⟨rest, content⟩).isSome = true) :
    ((visibleFrom (before.entry? (Path.join directory folder))).filterMap keep).length <
      ((visibleFrom (after.entry? (Path.join directory folder))).filterMap keep).length := by
  -- Who passes over the written file counts as many as before.
  let passing (found : Found) : Option β :=
    if place ++ found.path = output then none else keep found
  have passed : (visibleFrom (before.root.at? place)).filterMap keep =
      (visibleFrom (before.root.at? place)).filterMap passing := by
    refine List.filterMap_congr fun found mem => (if_neg ?_).symm
    intro same
    rw [← same, at?_of_mem_filesFrom tree mem] at free
    cases free
  have steady : (visibleFrom (after.root.at? place)).filterMap passing =
      (visibleFrom (before.root.at? place)).filterMap passing :=
    grown.grows.filterMap_visible fun rest _ isOutput _ => Or.inl fun _ => if_pos isOutput
  have mem : ⟨rest, content⟩ ∈ visibleFrom (after.root.at? place) :=
    mem_visibleFrom further (isOutput ▸ written) visible
  calc ((visibleFrom (before.entry? (Path.join directory folder))).filterMap keep).length
      ≤ ((visibleFrom (before.root.at? place)).filterMap keep).length :=
        grown.length_filterMap_entry?_le located
    _ = ((visibleFrom (after.root.at? place)).filterMap passing).length := by rw [passed, steady]
    _ < ((visibleFrom (after.root.at? place)).filterMap keep).length :=
        length_filterMap_lt mem (fun found => ite_eq_or_eq _ none (keep found))
          (if_pos isOutput.symm) counts
    _ = ((visibleFrom (after.entry? (Path.join directory folder))).filterMap keep).length := by
        rw [Disk.entry?, located, Option.bind_some]

/-! ### The configuration -/

/-- The document of the project is the same as before. -/
theorem readDocument_eq (grown : before.Grown after directory here output guides) :
    Settings.readDocument after directory = Settings.readDocument before directory := by
  have single : Text.pieces '/' Settings.configFile = [Settings.configFile] := by decide
  have down : stepFrom here Settings.configFile = here ++ [Settings.configFile] := by
    rw [stepFrom, if_neg (by decide), if_neg (by decide)]
  have relative : Path.isAbsolute Settings.configFile = false := by decide
  have kept := grown.keeps
  rw [Settings.readDocument, Settings.readDocument,
    entry?_join_name (kept.locate?_eq grown.located) (kept.kinds.hasDirectory grown.isDirectory)
      single down relative,
    entry?_join_name grown.located grown.isDirectory single down relative]
  -- The document is known by its name, and nothing was set under that.
  have same := grown.grows.sameUnder here Settings.configFile List.mem_cons_self
  exact same.apply_eq Settings.documentIn fun _ _ => rfl

/-- The configuration of the project is the same as before. -/
theorem loadFrom_eq (grown : before.Grown after directory here output guides)
    (overrides : Settings.Overrides) (valueOf? : Toml.DocumentReader) :
    Settings.Config.loadFrom after directory overrides valueOf? =
      Settings.Config.loadFrom before directory overrides valueOf? := by
  rw [Settings.Config.loadFrom, Settings.Config.loadFrom, grown.readDocument_eq]

end Disk.Grown

end TypedMvc.Files

namespace TypedMvc.Project

open Files Entry Model

variable {before after : Disk} {directory : String} {here output guides : List String}

/-! ## Sources -/

/-- Files that a walk finds come in one order when they are sorted by their paths. -/
theorem mergeSort_files_eq_of_perm {walk : Walker} {root : Entry} {keep : Found → Bool}
    {files : List Found} (perm : ((walk.files root here).filter keep).Perm files) :
    ((walk.files root here).filter keep).mergeSort pathLe = files.mergeSort pathLe :=
  mergeSort_eq_of_perm sorts_names Found.path perm fun _ mem _ mem' same =>
    Walker.eq_of_path_eq (List.mem_filter.mp mem).1 (List.mem_filter.mp mem').1 same

/-- A file that is kept is not the output, and would be kept without one. -/
theorem isSource_some_iff {patterns : List (String → Bool)} {found : Found} :
    isSource here (some output) patterns found = true ↔
      output ≠ here ++ found.path ∧ isSource here none patterns found = true := by
  simp only [isSource, Bool.and_eq_true, bne_iff_ne, Ne, Option.some.injEq, reduceCtorEq,
    not_false_eq_true, and_true]
  rw [and_right_comm, and_comm]

/-- A file other than the written one is found as before. -/
theorem mem_files_iff_of_grown {walk : Walker} (goesBy : walk.GoesBy guides)
    (grown : before.Grown after directory here output guides) (tree : before.root.IsTree)
    {found : Found} (differs : output ≠ here ++ found.path) :
    found ∈ walk.files after.root here ↔ found ∈ walk.files before.root here := by
  have same : SameUnder guides before.root after.root := fun above name mem =>
    grown.grows.sameUnder above name (List.mem_cons_of_mem _ mem)
  have tree' := grown.grows.isTree tree
  have lies {content : ByteArray} : after.root.at? (here ++ found.path) = some (.file content) ↔
      before.root.at? (here ++ found.path) = some (.file content) :=
    grown.grows.at?_eq_file_iff differs.symm
  constructor
  · intro mem
    obtain ⟨-, there⟩ := Walker.mem_files_iff.mp mem
    exact goesBy.mem_files tree' tree same.symm (lies.mp there) mem
  · intro mem
    obtain ⟨-, there⟩ := Walker.mem_files_iff.mp mem
    exact goesBy.mem_files tree tree' same (lies.mpr there) mem

/-- The sources are the same as before, if the path of the written file led to it before or nothing
lay there. The walk goes by what nothing was written under, and the written file itself is left out
by its place, whatever the walk and the patterns are. -/
theorem collectSources_eq_of_grown {walk : Walker} {readPattern : PatternReader}
    {outputFile : String} {exclude : List String} (goesBy : walk.GoesBy guides)
    (grown : before.Grown after directory here output guides) (tree : before.root.IsTree)
    (leads : after.locate? (Path.join directory outputFile) = some output)
    (settled : before.locate? (Path.join directory outputFile) = some output ∨
      before.root.at? output = none) :
    collectSources after directory exclude outputFile walk readPattern =
      collectSources before directory exclude outputFile walk readPattern := by
  have known (patterns : List (String → Bool)) {found : Found}
      (mem : found ∈ walk.files before.root here) :
      isSource here (before.locate? (Path.join directory outputFile)) patterns found =
        isSource here (some output) patterns found := by
    cases sooner : before.locate? (Path.join directory outputFile) with
    | some place => rw [grown.keeps.place_eq sooner leads]
    | none =>
      have free : before.root.at? output = none := by simpa [sooner] using settled
      have differs : output ≠ here ++ found.path := by
        rintro rfl
        cases free.symm.trans (Walker.mem_files_iff.mp mem).2
      rw [Bool.eq_iff_iff, isSource_some_iff, and_iff_right differs]
  have once := goesBy.once before.root tree here
  have once' := goesBy.once after.root (grown.grows.isTree tree) here
  have sorted (patterns : List (String → Bool)) :
      ((walk.files after.root here).filter (isSource here (some output) patterns)).mergeSort
          pathLe =
        ((walk.files before.root here).filter (isSource here
          (before.locate? (Path.join directory outputFile)) patterns)).mergeSort pathLe := by
    rw [List.filter_congr fun found mem => known patterns mem]
    -- No file is found twice in either tree, so it is enough that the same files are kept.
    refine mergeSort_files_eq_of_perm ((List.perm_ext_iff_of_nodup ?_ ?_).mpr fun found => ?_)
    · exact ((Walker.nodup_files once').of_map _).filter _
    · exact ((Walker.nodup_files once).of_map _).filter _
    · rw [List.mem_filter, List.mem_filter, isSource_some_iff]
      exact and_congr_left fun kept => mem_files_iff_of_grown goesBy grown tree kept.1
  rw [collectSources, collectSources, leads, grown.keeps.locate?_eq grown.located, grown.located]
  simp only [sorted]

/-! ## Views -/

namespace ViewLocator

/-- A file at a place is one of the views, whatever is in it. -/
def FindsAt (locator : ViewLocator) (disk : Disk) (directory : String) (place : List String) :
    Prop :=
  ∃ (folder : List String) (found : Found),
    disk.locate? (Path.join directory locator.folder) = some folder ∧
      place = folder ++ found.path ∧ (∀ name ∈ found.path, isHidden name = false) ∧
        (locator.viewOf? directory found).isSome = true

/-- The views are those among the visible files below the folder. -/
theorem find_eq (locator : ViewLocator) (disk : Disk) (directory : String) :
    locator.find disk directory =
      ((visibleFrom (disk.entry? (Path.join directory locator.folder))).filterMap
        (locator.viewOf? directory)).mergeSort viewLe := by
  rw [find]
  split
  · rename_i entries found
    rw [found, visibleFiles_eq_visibleFrom]
  · rename_i noDirectory
    rw [visibleFrom, filesFrom_eq_nil noDirectory, List.filterMap_nil, List.mergeSort_nil]

/-- There are more views than before, if the written file is new and a view. -/
theorem length_find_lt {locator : ViewLocator} {content : ByteArray}
    (grown : before.Grown after directory here output guides) (tree : before.root.IsTree)
    (free : before.root.at? output = none)
    (written : after.root.at? output = some (.file content))
    (finds : locator.FindsAt after directory output) :
    (locator.find before directory).length < (locator.find after directory).length := by
  obtain ⟨folder, found, located, isOutput, visible, isView⟩ := finds
  have further : found.path ≠ [] := by
    intro empty
    simp [viewOf?, empty] at isView
  rw [find_eq, find_eq, List.length_mergeSort, List.length_mergeSort]
  exact grown.length_filterMap_visible_lt tree free written located isOutput further visible isView

/-- The views are the same as before, if the written file was there or is no view. -/
theorem find_eq_of_grown {locator : ViewLocator}
    (grown : before.Grown after directory here output guides)
    (steady : (before.locate? (Path.join directory locator.folder)).isSome = true ∨
      ".." ∉ Text.pieces '/' locator.folder)
    (apart : (∃ entry, before.root.at? output = some entry) ∨
      ¬ locator.FindsAt after directory output) :
    locator.find after directory = locator.find before directory := by
  rw [find_eq, find_eq]
  congr 1
  refine grown.filterMap_visible steady fun place rest located _ isOutput visible => ?_
  refine apart.symm.imp (fun noView content => ?_) fun there => ⟨there, fun _ _ => rfl⟩
  rw [Option.eq_none_iff_forall_ne_some]
  intro view found
  exact noView ⟨place, ⟨rest, content⟩, located, isOutput.symm, visible, by rw [found]; rfl⟩

end ViewLocator

/-! ## Static files -/

namespace StaticLocator

/-- A file at a place is one of the static files, whatever is in it. -/
def FindsAt (locator : StaticLocator) (disk : Disk) (directory : String) (place : List String) :
    Prop :=
  ∃ (folder : List String) (found : Found),
    disk.locate? (Path.join directory locator.folder) = some folder ∧
      place = folder ++ found.path ∧ found.path ≠ [] ∧
        (∀ name ∈ found.path, isHidden name = false) ∧
          (locator.exclude.any fun isMatch => isMatch found.relativePath) = false

/-- The static file that a found file is, if no pattern leaves it out. -/
def fileOf? (locator : StaticLocator) (found : Found) : Option StaticFile :=
  if locator.exclude.any fun isMatch => isMatch found.relativePath then none
  else some ⟨found.name, found.relativePath⟩

/-- The static files are those among the visible files below the folder. -/
theorem find_eq (locator : StaticLocator) (disk : Disk) (directory : String) :
    locator.find disk directory =
      ((visibleFrom (disk.entry? (Path.join directory locator.folder))).filterMap
        locator.fileOf?).mergeSort fileLe := by
  have kept (files : List Found) :
      (files.filter fun found =>
          !locator.exclude.any fun isMatch => isMatch found.relativePath).map
        (fun found => (⟨found.name, found.relativePath⟩ : StaticFile)) =
      files.filterMap locator.fileOf? := by
    rw [← List.filterMap_eq_map, List.filterMap_filter]
    refine List.filterMap_congr fun found _ => ?_
    rw [fileOf?]
    cases locator.exclude.any fun isMatch => isMatch found.relativePath <;> rfl
  rw [find]
  split
  · rename_i entries found
    dsimp only
    rw [found, kept, visibleFiles_eq_visibleFrom]
  · rename_i noDirectory
    rw [visibleFrom, filesFrom_eq_nil noDirectory, List.filterMap_nil, List.mergeSort_nil]

/-- There are more static files than before, if the written file is new and one of them. -/
theorem length_find_lt {locator : StaticLocator} {content : ByteArray}
    (grown : before.Grown after directory here output guides) (tree : before.root.IsTree)
    (free : before.root.at? output = none)
    (written : after.root.at? output = some (.file content))
    (finds : locator.FindsAt after directory output) :
    (locator.find before directory).length < (locator.find after directory).length := by
  obtain ⟨folder, found, located, isOutput, further, visible, kept⟩ := finds
  have counts : (locator.fileOf? ⟨found.path, content⟩).isSome = true := by
    rw [fileOf?, if_neg]
    · rfl
    · exact Bool.eq_false_iff.mp kept
  rw [find_eq, find_eq, List.length_mergeSort, List.length_mergeSort]
  exact grown.length_filterMap_visible_lt tree free written located isOutput further visible counts

/-- The static files are the same as before, if the written file was there or is none of them. -/
theorem find_eq_of_grown {locator : StaticLocator}
    (grown : before.Grown after directory here output guides)
    (steady : (before.locate? (Path.join directory locator.folder)).isSome = true ∨
      ".." ∉ Text.pieces '/' locator.folder)
    (apart : (∃ entry, before.root.at? output = some entry) ∨
      ¬ locator.FindsAt after directory output) :
    locator.find after directory = locator.find before directory := by
  rw [find_eq, find_eq]
  congr 1
  refine grown.filterMap_visible steady fun place rest located further isOutput visible => ?_
  refine apart.symm.imp (fun noFile content => ?_) fun there => ⟨there, fun _ _ => rfl⟩
  rw [fileOf?, ite_eq_left_iff]
  intro kept
  exact absurd ⟨place, ⟨rest, content⟩, located, isOutput.symm, further, visible,
    Bool.eq_false_iff.mpr kept⟩ noFile

end StaticLocator

end TypedMvc.Project
