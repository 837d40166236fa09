import Mathlib.Data.Option.Basic
import TypedMvc.Proofs.FileWrites
import TypedMvc.Settings.Load

/-!
# Trees that differ in the order of entries

The entries of a directory come in some order, and nothing that a name leads to depends on it where
names are used once (`sameTree_of_perm`). Two trees are the same apart from that if every list of
names leads to a directory in both, to files with the same bytes, or nowhere (`SameTree`). In such
trees paths lead to the same places (`Disk.SameFiles.locate?_eq`), so the same is read and the
configuration is the same (`Disk.SameFiles.loadFrom_eq`); and setting an entry at a place keeps the
trees the same (`SameTree.put`).
-/

namespace TypedMvc.Files

namespace Entry

/-- What lies where is the same in two trees, whatever the order of the entries. -/
def SameTree (tree other : Entry) : Prop :=
  ∀ place, (tree.at? place).map content? = (other.at? place).map content?

variable {tree other : Entry} {place : List String} {name : String}

/-- Only a directory has no bytes. -/
theorem isDirectory_eq (entry : Entry) : entry.isDirectory = entry.content?.isNone := by
  cases entry <;> rfl

namespace SameTree

/-- A tree is the same as itself. -/
theorem refl (tree : Entry) : tree.SameTree tree := fun _ => rfl

/-- Two trees are the same in either order. -/
theorem symm (same : tree.SameTree other) : other.SameTree tree := fun place => (same place).symm

/-- A tree that is the same as another one is the same as all that are the same as that. -/
theorem trans {third : Entry} (same : tree.SameTree other) (same' : other.SameTree third) :
    tree.SameTree third := fun place => (same place).trans (same' place)

/-- The trees themselves are both directories, or files with the same bytes. -/
theorem content?_eq (same : tree.SameTree other) : other.content? = tree.content? :=
  (Option.some.inj (same [])).symm

/-- The trees themselves are of one kind. -/
theorem isDirectory_eq (same : tree.SameTree other) : other.isDirectory = tree.isDirectory := by
  rw [Entry.isDirectory_eq, Entry.isDirectory_eq, same.content?_eq]

/-- At every place the trees have nothing, or trees that are the same. -/
theorem rel_at? (same : tree.SameTree other) (place : List String) :
    Option.Rel SameTree (tree.at? place) (other.at? place) := by
  have there := same place
  cases found : tree.at? place with
  | none =>
    rw [found, Option.map_none, eq_comm, Option.map_eq_none_iff] at there
    rw [there]
    exact .none
  | some entry =>
    rw [found, Option.map_some, eq_comm, Option.map_eq_some_iff] at there
    obtain ⟨entry', found', -⟩ := there
    rw [found']
    refine .some fun rest => ?_
    have further := same (place ++ rest)
    rwa [at?_append, at?_append, found, found', Option.bind_some, Option.bind_some] at further

/-- What lies at a place in one tree lies there in the other. -/
theorem exists_at? (same : tree.SameTree other) {entry : Entry}
    (found : tree.at? place = some entry) :
    ∃ entry', other.at? place = some entry' ∧ entry.SameTree entry' := by
  have there := same.rel_at? place
  rw [found] at there
  generalize other.at? place = found' at there ⊢
  cases there with
  | some alike => exact ⟨_, rfl, alike⟩

/-- Names lead to the same below both trees. -/
theorem rel_child? (same : tree.SameTree other) (name : String) :
    Option.Rel SameTree (tree.child? name) (other.child? name) := by
  have below := same.rel_at? [name]
  rwa [at?_singleton, at?_singleton] at below

/-- A file is the same as the files with its bytes, and as nothing else. -/
theorem eq_file {content : ByteArray} (same : (Entry.file content).SameTree other) :
    other = .file content := by
  have bytes := same.content?_eq
  cases other with
  | file content' => exact congrArg _ (Option.some.inj bytes)
  | directory entries => cases bytes

/-- A directory is the same as directories only. -/
theorem exists_directory {entries : List (String × Entry)}
    (same : (Entry.directory entries).SameTree other) :
    ∃ entries', other = .directory entries' := by
  have bytes := same.content?_eq
  cases other with
  | file content => cases bytes
  | directory entries' => exact ⟨entries', rfl⟩

/-- The trees hold the same under all names. -/
theorem sameUnder (same : tree.SameTree other) (names : List String) :
    SameUnder names tree other := fun _ _ _ => same _

/-- What is a file or a directory in one tree is so in the other. -/
theorem keepsKinds (same : tree.SameTree other) : KeepsKinds tree other := by
  intro place entry found
  obtain ⟨entry', found', alike⟩ := same.exists_at? found
  exact ⟨entry', found', alike.isDirectory_eq⟩

end SameTree

/-! ## Directories with the same entries -/

/-- Directories are the same if every name leads to the same in both. -/
theorem sameTree_directory {entries entries' : List (String × Entry)}
    (alike : ∀ name, Option.Rel SameTree (entries.lookup name) (entries'.lookup name)) :
    (Entry.directory entries).SameTree (.directory entries') := by
  intro place
  cases place with
  | nil => rfl
  | cons name rest =>
    rw [at?, at?, child?, child?, Entry.entries, Entry.entries]
    have below := alike name
    generalize entries.lookup name = child, entries'.lookup name = child' at below ⊢
    cases below with
    | none => rfl
    | some same => exact same rest

/-- Whatever it is, an entry is the same as itself. -/
theorem rel_refl (entry : Option Entry) : Option.Rel SameTree entry entry := by
  cases entry with
  | none => exact .none
  | some entry => exact .some (.refl entry)

/-- Where names are used once, the order of the entries makes no difference to a name. -/
theorem lookup_eq_of_perm {entries entries' : List (String × Entry)}
    (names : (entries.map Prod.fst).Nodup) (perm : entries.Perm entries') (name : String) :
    entries'.lookup name = entries.lookup name := by
  have names' : (entries'.map Prod.fst).Nodup := (perm.map _).nodup_iff.mp names
  cases found : entries.lookup name with
  | some entry => exact lookup_eq_some_of_mem names' (perm.subset (mem_of_lookup found))
  | none =>
    rw [List.lookup_eq_none_iff] at found ⊢
    exact fun named mem => found named (perm.symm.subset mem)

/-- Where names are used once, a directory is the same in every order of its entries. -/
theorem sameTree_of_perm {entries entries' : List (String × Entry)}
    (names : (entries.map Prod.fst).Nodup) (perm : entries.Perm entries') :
    (Entry.directory entries).SameTree (.directory entries') :=
  sameTree_directory fun name => lookup_eq_of_perm names perm name ▸ rel_refl _

/-- Whether names are used once does not depend on the order of the entries. -/
theorem IsTree.of_perm {entries entries' : List (String × Entry)}
    (isTree : (Entry.directory entries).IsTree) (perm : entries.Perm entries') :
    (Entry.directory entries').IsTree := by
  cases isTree with
  | directory names below =>
    exact .directory ((perm.map _).nodup_iff.mp names) fun named mem =>
      below named (perm.mem_iff.mpr mem)

/-- A directory is the same if one of its entries is replaced by one that is the same. -/
theorem sameTree_of_entry {entry entry' : Entry} (same : entry.SameTree entry')
    (front behind : List (String × Entry)) (name : String) :
    (Entry.directory (front ++ (name, entry) :: behind)).SameTree
      (.directory (front ++ (name, entry') :: behind)) := by
  refine sameTree_directory fun other => ?_
  rw [List.lookup_append, List.lookup_append]
  cases front.lookup other with
  | some found => exact rel_refl _
  | none =>
    by_cases isName : other = name
    · rw [isName, List.lookup_cons_self, List.lookup_cons_self]
      exact .some same
    · rw [lookup_cons_of_ne isName, lookup_cons_of_ne isName]
      exact rel_refl _

/-- What is set at the same place of trees that are the same leaves them the same. -/
theorem SameTree.put (target : Entry) (place : List String) (same : tree.SameTree other) :
    (put target place tree).SameTree (put target place other) := by
  induction place generalizing tree other with
  | nil => exact .refl target
  | cons name rest ih =>
    cases tree with
    | file content =>
      rw [same.eq_file]
      exact .refl _
    | directory entries =>
      obtain ⟨entries', rfl⟩ := same.exists_directory
      -- The name leads to the same in both afterwards, and all others lead where they led.
      have set : ∀ {child child' : Entry}, child.SameTree child' →
          (Entry.directory (setEntry name child entries)).SameTree
            (.directory (setEntry name child' entries')) := by
        intro child child' alike
        refine sameTree_directory fun other => ?_
        rw [lookup_setEntry, lookup_setEntry]
        split
        · exact .some alike
        · exact same.rel_child? other
      cases rest with
      | nil => exact set (.refl target)
      | cons next rest =>
        simp only [Entry.put]
        have below := same.rel_child? name
        rw [child?, child?, Entry.entries, Entry.entries] at below
        generalize entries.lookup name = child, entries'.lookup name = child' at below ⊢
        cases below with
        | none => exact same
        | some alike => exact set (ih alike)

end Entry

open Entry

namespace Disk

/-- Two disks with the same files and directories, whatever the order in which the entries of a
directory come. -/
structure SameFiles (disk other : Disk) : Prop where
  /-- The program is at the same place. -/
  workingDirectory : other.workingDirectory = disk.workingDirectory
  /-- The trees are the same. -/
  root : disk.root.SameTree other.root

namespace SameFiles

variable {disk other : Disk} {directory path : String}

/-- Two disks have the same files in either order. -/
theorem symm (same : disk.SameFiles other) : other.SameFiles disk :=
  ⟨same.workingDirectory.symm, same.root.symm⟩

/-- What is on one disk is on the other, each thing of its kind. -/
theorem keeps (same : disk.SameFiles other) : disk.Keeps other :=
  ⟨same.workingDirectory, same.root.keepsKinds⟩

/-- A path leads to the same place, or nowhere on both disks. -/
theorem locate?_eq (same : disk.SameFiles other) (path : String) :
    other.locate? path = disk.locate? path :=
  Option.ext fun _ => ⟨same.symm.keeps.locate?_eq, same.keeps.locate?_eq⟩

/-- What a path names is the same. -/
theorem rel_entry? (same : disk.SameFiles other) (path : String) :
    Option.Rel SameTree (disk.entry? path) (other.entry? path) := by
  rw [Disk.entry?, Disk.entry?, same.locate?_eq]
  cases disk.locate? path with
  | none => exact .none
  | some place => exact same.root.rel_at? place

/-- A path names a directory on both disks, or on neither. -/
theorem isDirectory_eq (same : disk.SameFiles other) (path : String) :
    other.isDirectory path = disk.isDirectory path := by
  rw [isDirectory, isDirectory]
  have alike := same.rel_entry? path
  generalize disk.entry? path = entry, other.entry? path = entry' at alike ⊢
  cases alike with
  | none => rfl
  | some alike => exact alike.isDirectory_eq

/-- A path names a file on both disks, or on neither. -/
theorem isFile_eq (same : disk.SameFiles other) (path : String) :
    other.isFile path = disk.isFile path := by
  rw [isFile, isFile]
  have alike := same.rel_entry? path
  generalize disk.entry? path = entry, other.entry? path = entry' at alike ⊢
  cases alike with
  | none => rfl
  | some alike => exact congrArg not alike.isDirectory_eq

/-- The same bytes are read by a path. -/
theorem read?_eq (same : disk.SameFiles other) (path : String) :
    other.read? path = disk.read? path := by
  have bytes : ∀ disk : Disk, disk.read? path = (disk.entry? path).bind Entry.content? := by
    intro disk
    rw [read?]
    cases disk.entry? path with
    | none => rfl
    | some entry => cases entry <;> rfl
  rw [bytes, bytes]
  have alike := same.rel_entry? path
  generalize disk.entry? path = entry, other.entry? path = entry' at alike ⊢
  cases alike with
  | none => rfl
  | some alike => exact alike.content?_eq

/-- The document of a project is the same. -/
theorem readDocument_eq (same : disk.SameFiles other) (directory : String) :
    Settings.readDocument other directory = Settings.readDocument disk directory := by
  rw [Settings.readDocument, Settings.readDocument]
  have alike := same.rel_entry? (Path.join directory Settings.configFile)
  generalize disk.entry? (Path.join directory Settings.configFile) = entry,
    other.entry? (Path.join directory Settings.configFile) = entry' at alike ⊢
  cases alike with
  | none => rfl
  | @some entry entry' alike =>
    cases entry with
    | file content => rw [alike.eq_file]
    | directory entries =>
      obtain ⟨entries', rfl⟩ := alike.exists_directory
      rfl

/-- The configuration of a project is the same. -/
theorem loadFrom_eq (same : disk.SameFiles other) (directory : String)
    (overrides : Settings.Overrides) (valueOf? : Toml.DocumentReader) :
    Settings.Config.loadFrom other directory overrides valueOf? =
      Settings.Config.loadFrom disk directory overrides valueOf? := by
  rw [Settings.Config.loadFrom, Settings.Config.loadFrom, same.readDocument_eq]

end SameFiles

end Disk

/-! ## Writing -/

/-- The directories that are missing on the way are the same, and so is what stands in the way. -/
theorem makeAlong_same (system : System) {tree other : Entry} (same : tree.SameTree other)
    (here : List String) (made : Bool) (parts : List String) :
    (makeAlong system tree here made parts).1.SameTree
        (makeAlong system other here made parts).1 ∧
      (makeAlong system other here made parts).2 = (makeAlong system tree here made parts).2 := by
  induction parts generalizing tree other here made with
  | nil => exact ⟨same, rfl⟩
  | cons piece rest ih =>
    rw [makeAlong, makeAlong]
    split
    · exact ih same here made
    · split
      · exact ih same here.dropLast made
      · dsimp only
        have there := same.rel_at? (here ++ [piece])
        generalize tree.at? (here ++ [piece]) = found, other.at? (here ++ [piece]) = found'
          at there ⊢
        cases there with
        | none =>
          dsimp only
          split
          · exact ⟨same, rfl⟩
          · exact ih (same.put _ _) _ true
        | @some entry entry' alike =>
          cases entry with
          | file content =>
            rw [alike.eq_file]
            exact ⟨same, rfl⟩
          | directory entries =>
            obtain ⟨entries', rfl⟩ := alike.exists_directory
            exact ih same _ made

/-- A piece of a path is followed in the same way in both trees. -/
theorem Entry.SameTree.follow?_eq {tree other : Entry} (same : tree.SameTree other)
    (here : List String) (piece : String) :
    Disk.follow? other here piece = Disk.follow? tree here piece := by
  have forward : ∀ {tree other : Entry}, tree.SameTree other → ∀ there,
      Disk.follow? tree here piece = some there → Disk.follow? other here piece = some there := by
    intro tree other same there followed
    rw [Disk.follow?_eq_some_iff] at followed ⊢
    obtain ⟨room, step, entry, found⟩ := followed
    obtain ⟨entry', found', -⟩ := same.exists_at? found
    exact ⟨same.keepsKinds.hasDirectory room, step, entry', found'⟩
  exact Option.ext fun there => ⟨forward same.symm there, forward same there⟩

/-- A place is that of a directory in both trees, or in neither. -/
theorem Entry.SameTree.any_isDirectory_eq {tree other : Entry} (same : tree.SameTree other)
    (here : List String) :
    (other.at? here).any isDirectory = (tree.at? here).any isDirectory := by
  have there := same.rel_at? here
  generalize tree.at? here = found, other.at? here = found' at there ⊢
  cases there with
  | none => rfl
  | some alike => exact alike.isDirectory_eq

/-- A piece of a path is followed in the same way in both trees, or the same stands in the way. -/
theorem Entry.SameTree.follow_eq {tree other : Entry} (same : tree.SameTree other) :
    Disk.follow other = Disk.follow tree := by
  funext here piece
  rw [Disk.follow, Disk.follow, same.follow?_eq, same.any_isDirectory_eq]

namespace Disk.SameFiles

variable {disk other : Disk}

/-- Directories that are made on both disks leave the same files. -/
theorem makeDirectories (same : disk.SameFiles other) (path : String) (system : System) :
    (disk.makeDirectories path system).1.SameFiles (other.makeDirectories path system).1 ∧
      (other.makeDirectories path system).2 = (disk.makeDirectories path system).2 := by
  have start : other.start path = disk.start path := same.keeps.start_eq path
  obtain ⟨tree, obstacle⟩ :=
    makeAlong_same system same.root (disk.start path) false (Text.pieces '/' path)
  rw [Disk.makeDirectories, Disk.makeDirectories, start]
  exact ⟨⟨same.workingDirectory, tree⟩, obstacle⟩

/-- The place for a file is the same on both disks, or the same stands in the way. -/
theorem filePlace_eq (same : disk.SameFiles other) (path : String) :
    other.filePlace path = disk.filePlace path := by
  have start : other.start path = disk.start path := same.keeps.start_eq path
  rw [Disk.filePlace, Disk.filePlace]
  simp only [start, same.root.follow_eq, same.root.any_isDirectory_eq]
  split
  · rfl
  · rfl
  · rename_i here name followed last
    split
    · rfl
    -- Both trees have the same above the file and at its place, so the same is in the way.
    · have there := same.root.rel_at? here
      have free := same.root.rel_at? (here ++ [name])
      generalize disk.root.at? here = above, other.root.at? here = above',
        disk.root.at? (here ++ [name]) = old, other.root.at? (here ++ [name]) = old' at there free ⊢
      cases there with
      | none => rfl
      | @some above above' alike =>
        cases above with
        | file bytes => rw [alike.eq_file]
        | directory entries =>
          obtain ⟨entries', rfl⟩ := alike.exists_directory
          cases free with
          | none => rfl
          | @some old old' alike =>
            cases old with
            | file bytes => rw [alike.eq_file]
            | directory entries =>
              obtain ⟨entries', rfl⟩ := alike.exists_directory
              rfl

/-- A file that is set on both disks leaves the same files. -/
theorem setFile (same : disk.SameFiles other) (place : List String) (content : ByteArray) :
    (disk.setFile place content).SameFiles (other.setFile place content) :=
  ⟨same.workingDirectory, same.root.put _ _⟩

end Disk.SameFiles

end TypedMvc.Files

namespace TypedMvc.Project

open Files

/-- A text that is written onto two disks with the same files leaves the same files, and the same
comes of it. -/
theorem write_same {disk other : Disk} (same : disk.SameFiles other) (text destination : String)
    (system : System) :
    (write disk text destination system).1.SameFiles (write other text destination system).1 ∧
      (write other text destination system).2 = (write disk text destination system).2 := by
  rw [write, write]
  simp only [same.read?_eq]
  split
  · exact ⟨same, rfl⟩
  · simp only [Disk.ite_makeDirectories]
    have made := same.makeDirectories ((Path.parent? destination).getD "") system
    generalize disk.makeDirectories ((Path.parent? destination).getD "") system = result,
      other.makeDirectories ((Path.parent? destination).getD "") system = result' at made ⊢
    obtain ⟨middle, obstacle⟩ := result
    obtain ⟨middle', obstacle'⟩ := result'
    obtain ⟨alike, rfl⟩ := made
    cases obstacle' with
    | some obstacle => exact ⟨alike, rfl⟩
    | none =>
      dsimp only at alike ⊢
      rw [Disk.writeFile, Disk.writeFile, alike.filePlace_eq]
      cases middle.filePlace destination with
      | error obstacle => exact ⟨alike, rfl⟩
      | ok place =>
        dsimp only
        cases system.file place with
        | completes => exact ⟨alike.setFile place _, rfl⟩
        | refuses message => exact ⟨alike, rfl⟩
        | breaksOff count message => exact ⟨alike.setFile place _, rfl⟩

end TypedMvc.Project
