import Mathlib.Data.List.Perm.Basic
import TypedMvc.Files.Walk
import TypedMvc.Proofs.PathSteps
import TypedMvc.Proofs.SameTree

/-!
# What a walk comes to

A walk through a tree is let into some of the entries on its way, and finds the files that it
reaches (`Reaches`, `mem_filesAt_iff`). Where names are used once, it finds no file twice
(`nodup_paths_filesFrom`), and each file lies where its path leads (`at?_of_mem_filesFrom`). The
visible files are those that no hidden name leads to (`mem_visibleFrom_iff`), so they are the same
in trees that are the same (`perm_visibleFrom`).

Of a walk that is up to others only paths are known (`Walker.mem_files_iff`). What may be relied on
is that it comes to nothing twice, and goes by what lies under certain names, those of lists of
rules for example (`Walker.GoesBy`).
-/

namespace TypedMvc.Files

open Entry

/-! ## Files that are reached -/

section Walk

variable {σ : Type} {enter : σ → String → Entry → Option σ} {known : σ}
  {name : String} {path place rest : List String} {content : ByteArray} {tree : Entry}
  {found found' : Found}

/-- A walk is let in all the way from an entry to a file at or below it. -/
inductive Reaches (enter : σ → String → Entry → Option σ) :
    σ → Entry → List String → ByteArray → Prop where
  /-- The entry is the file. -/
  | file (known : σ) (content : ByteArray) : Reaches enter known (.file content) [] content
  /-- The walk is let into an entry of the directory, and further from there. -/
  | down {known below : σ} {name : String} {child : Entry} {entries : List (String × Entry)}
      {rest : List String} {content : ByteArray} (listed : (name, child) ∈ entries)
      (letIn : enter known name child = some below)
      (further : Reaches enter below child rest content) :
      Reaches enter known (.directory entries) (name :: rest) content

/-- Where names are used once, the names on the way lead to the file that is reached. -/
theorem Reaches.at?_eq (reaches : Reaches enter known tree rest content) (isTree : tree.IsTree) :
    tree.at? rest = some (.file content) := by
  induction reaches with
  | file known content => rfl
  | down listed letIn further ih =>
    cases isTree with
    | directory names below =>
      rw [at?, child?, entries, lookup_eq_some_of_mem names listed]
      exact ih (below _ listed)

/-- The files at or below one entry of a directory. -/
def filesOf (enter : σ → String → Entry → Option σ) (known : σ) (path : List String)
    (name : String) (entry : Entry) : List Found :=
  match enter known name entry with
  | some below => filesAt enter below (path ++ [name]) entry
  | none => []

/-- The files of a directory are those of its first entry, then those of the others. -/
theorem filesAmong_cons (known : σ) (path : List String) (name : String) (entry : Entry)
    (rest : List (String × Entry)) :
    filesAmong enter known path ((name, entry) :: rest) =
      filesOf enter known path name entry ++ filesAmong enter known path rest := by
  rw [filesAmong]
  rfl

mutual
/-- The files at or below an entry are those that the walk reaches. -/
theorem mem_filesAt_iff : (tree : Entry) → {known : σ} → {path : List String} →
    (found ∈ filesAt enter known path tree ↔
      ∃ rest, found.path = path ++ rest ∧ Reaches enter known tree rest found.content)
  | .file content, known, path => by
    rw [filesAt, List.mem_singleton]
    constructor
    · rintro rfl
      exact ⟨[], (List.append_nil path).symm, .file known content⟩
    · rintro ⟨_, through, reaches⟩
      obtain ⟨way, bytes⟩ := found
      cases reaches
      rw [List.append_nil] at through
      exact congrArg (fun way => Found.mk way bytes) through
  | .directory entries, known, path => by
    rw [filesAt, mem_filesAmong_iff entries]
    constructor
    · rintro ⟨name, child, listed, below, letIn, rest, through, further⟩
      exact ⟨name :: rest, through, .down listed letIn further⟩
    · rintro ⟨_, through, reaches⟩
      cases reaches with
      | down listed letIn further => exact ⟨_, _, listed, _, letIn, _, through, further⟩

/-- The files below the entries of a directory are those that the walk reaches through one of
them. -/
theorem mem_filesAmong_iff : (entries : List (String × Entry)) → {known : σ} →
    {path : List String} → (found ∈ filesAmong enter known path entries ↔
      ∃ name child, (name, child) ∈ entries ∧ ∃ below, enter known name child = some below ∧
        ∃ rest, found.path = path ++ name :: rest ∧ Reaches enter below child rest found.content)
  | [], known, path => by simp [filesAmong]
  | (name, entry) :: others, known, path => by
    have first : found ∈ filesOf enter known path name entry ↔
        ∃ below, enter known name entry = some below ∧
          ∃ rest, found.path = path ++ name :: rest ∧
            Reaches enter below entry rest found.content := by
      rw [filesOf]
      cases enter known name entry with
      | none => simp
      | some below => simp [mem_filesAt_iff entry]
    rw [filesAmong_cons, List.mem_append, first, mem_filesAmong_iff others]
    constructor
    · rintro (inFirst | ⟨other, child, listed, inOther⟩)
      · exact ⟨name, entry, List.mem_cons_self, inFirst⟩
      · exact ⟨other, child, List.mem_cons_of_mem _ listed, inOther⟩
    · rintro ⟨other, child, listed, inside⟩
      cases listed with
      | head => exact Or.inl inside
      | tail _ later => exact Or.inr ⟨other, child, later, inside⟩
end

/-! ## No file is found twice -/

/-- Files in entries of different names have different paths, so the files of a directory have, if
those of each entry have. -/
theorem nodup_paths_filesAmong {entries : List (String × Entry)}
    (names : (entries.map Prod.fst).Nodup)
    (below : ∀ named ∈ entries, ∀ known path,
      ((filesAt enter known path named.2).map Found.path).Nodup) :
    ((filesAmong enter known path entries).map Found.path).Nodup := by
  induction entries with
  | nil => exact List.nodup_nil
  | cons first others ih =>
    obtain ⟨name, entry⟩ := first
    rw [List.map_cons, List.nodup_cons] at names
    obtain ⟨here, further⟩ := List.forall_mem_cons.mp below
    rw [filesAmong_cons, List.map_append, List.nodup_append]
    refine ⟨?_, ih names.2 further, ?_⟩
    · rw [filesOf]
      split
      · exact here _ _
      · exact List.nodup_nil
    · rintro _ inside _ later rfl
      obtain ⟨found, mem, rfl⟩ := List.mem_map.mp inside
      obtain ⟨found', mem', same⟩ := List.mem_map.mp later
      obtain ⟨other, child, listed, -, -, _, through', -⟩ := (mem_filesAmong_iff others).mp mem'
      rw [filesOf] at mem
      split at mem
      · obtain ⟨_, through, -⟩ := (mem_filesAt_iff entry).mp mem
        -- The paths part at the name of the entry.
        rw [through', through, List.append_assoc, List.append_cancel_left_eq] at same
        have name_eq : other = name := (List.cons.inj same).1
        exact names.1 (List.mem_map.mpr ⟨(other, child), listed, name_eq⟩)
      · cases mem

/-- In a tree no file is found twice. -/
theorem nodup_paths_filesAt (isTree : tree.IsTree) (known : σ) (path : List String) :
    ((filesAt enter known path tree).map Found.path).Nodup := by
  induction isTree generalizing known path with
  | file content =>
    rw [filesAt]
    exact List.pairwise_singleton _ _
  | directory names below ih =>
    rw [filesAt]
    exact nodup_paths_filesAmong names ih

/-! ## Walks from a directory -/

/-- The files that a walk finds from a directory; none from anything else. -/
def filesFrom (enter : σ → String → Entry → Option σ) (known : σ) : Option Entry → List Found
  | some (.directory entries) => filesAmong enter known [] entries
  | _ => []

/-- A walk finds nothing from what is no directory. -/
theorem filesFrom_eq_nil {entry : Option Entry}
    (noDirectory : ∀ entries, entry = some (.directory entries) → False) :
    filesFrom enter known entry = [] := by
  rw [filesFrom]
  exact noDirectory

/-- A walk finds nothing where no directory is. -/
theorem filesFrom_of_not_hasDirectory (noDirectory : ¬ tree.HasDirectory place) :
    filesFrom enter known (tree.at? place) = [] :=
  filesFrom_eq_nil fun entries found => noDirectory ⟨entries, found⟩

/-- The files that a walk finds from a place are those below a directory there that it reaches. -/
theorem mem_filesFrom_iff :
    found ∈ filesFrom enter known (tree.at? place) ↔ ∃ entries,
      tree.at? place = some (.directory entries) ∧
        Reaches enter known (.directory entries) found.path found.content := by
  constructor
  · intro mem
    cases there : tree.at? place with
    | none =>
      rw [there] at mem
      cases mem
    | some entry =>
      rw [there] at mem
      cases entry with
      | file content => cases mem
      | directory entries =>
        rw [filesFrom, ← filesAt, mem_filesAt_iff] at mem
        obtain ⟨rest, through, reaches⟩ := mem
        rw [List.nil_append] at through
        exact ⟨entries, rfl, through ▸ reaches⟩
  · rintro ⟨entries, there, reaches⟩
    rw [there, filesFrom, ← filesAt, mem_filesAt_iff]
    exact ⟨found.path, rfl, reaches⟩

/-- A file that a walk finds lies where its path leads from the directory. -/
theorem at?_of_mem_filesFrom (isTree : tree.IsTree)
    (mem : found ∈ filesFrom enter known (tree.at? place)) :
    tree.at? (place ++ found.path) = some (.file found.content) := by
  obtain ⟨entries, there, reaches⟩ := mem_filesFrom_iff.mp mem
  rw [at?_append, there, Option.bind_some]
  exact reaches.at?_eq (isTree.of_at? there)

/-- A walk from a directory does not find that itself. -/
theorem path_ne_nil (mem : found ∈ filesFrom enter known (tree.at? place)) : found.path ≠ [] := by
  obtain ⟨entries, -, reaches⟩ := mem_filesFrom_iff.mp mem
  intro empty
  rw [empty] at reaches
  cases reaches

/-- A walk does not find a file twice. -/
theorem nodup_paths_filesFrom (isTree : tree.IsTree) (place : List String) :
    ((filesFrom enter known (tree.at? place)).map Found.path).Nodup := by
  cases there : tree.at? place with
  | none => exact List.nodup_nil
  | some entry =>
    cases entry with
    | file content => exact List.nodup_nil
    | directory entries =>
      have isDirectory := isTree.of_at? there
      rw [filesFrom, ← filesAt]
      exact nodup_paths_filesAt isDirectory _ _

end Walk

/-! ## Names of files -/

section Names

variable {σ : Type} {enter : σ → String → Entry → Option σ} {known : σ} {place : List String}
  {tree : Entry} {found : Found}

/-- A tree whose entries are called by names of files. -/
inductive Entry.HasFileNames : Entry → Prop where
  /-- A file has no entries. -/
  | file (content : ByteArray) : HasFileNames (.file content)
  /-- The entries of a directory are called by names of files, and are such trees themselves. -/
  | directory {entries : List (String × Entry)} (names : ∀ named ∈ entries, IsFileName named.1)
      (below : ∀ named ∈ entries, HasFileNames named.2) : HasFileNames (.directory entries)

/-- Everything in a tree is reached by names of files. -/
theorem Entry.HasFileNames.of_at? (names : tree.HasFileNames) {entry : Entry}
    (there : tree.at? place = some entry) : ∀ name ∈ place, IsFileName name := by
  induction place generalizing tree with
  | nil => exact List.forall_mem_nil _
  | cons first rest ih =>
    obtain ⟨child, found, further⟩ := Option.bind_eq_some_iff.mp there
    cases names with
    | file content => cases found
    | directory names below =>
      have mem : (first, child) ∈ _ := mem_of_lookup found
      exact List.forall_mem_cons.mpr ⟨names _ mem, ih (below _ mem) further⟩

end Names

/-! ## Visible files -/

section Visible

variable {path place rest : List String} {content : ByteArray} {tree other : Entry} {found : Found}

/-- Lets a walk into what is not hidden. -/
def enterVisible (_ : Unit) (name : String) (_ : Entry) : Option Unit :=
  if isHidden name then none else some ()

/-- The files that a walk into what is not hidden finds from a directory. -/
def visibleFrom : Option Entry → List Found := filesFrom enterVisible ()

/-- The visible files are found by a walk into what is not hidden. -/
theorem visibleFiles_eq_visibleFrom (entries : List (String × Entry)) :
    visibleFiles (.directory entries) = visibleFrom (some (.directory entries)) := rfl

/-- No name on the way to a visible file is that of something hidden. -/
theorem Reaches.visible (reaches : Reaches enterVisible () tree rest content) :
    ∀ name ∈ rest, isHidden name = false := by
  generalize () = known at reaches
  induction reaches with
  | file => exact List.forall_mem_nil _
  | @down _ _ name _ _ _ _ listed letIn further ih =>
    refine List.forall_mem_cons.mpr ⟨?_, ih⟩
    rw [enterVisible] at letIn
    split at letIn
    · cases letIn
    · rename_i notHidden
      simpa using notHidden

/-- A file is reached if no name on the way is that of something hidden. -/
theorem reaches_visible (leads : tree.at? rest = some (.file content))
    (visible : ∀ name ∈ rest, isHidden name = false) :
    Reaches enterVisible () tree rest content := by
  induction rest generalizing tree with
  | nil =>
    cases leads
    exact .file () content
  | cons name rest ih =>
    obtain ⟨notHidden, further⟩ := List.forall_mem_cons.mp visible
    obtain ⟨child, found, below⟩ := Option.bind_eq_some_iff.mp leads
    have letIn : enterVisible () name child = some () := by
      rw [enterVisible, notHidden, if_neg Bool.false_ne_true]
    cases tree with
    | file content => cases found
    | directory entries => exact .down (mem_of_lookup found) letIn (ih below further)

/-- No name on the way to a visible file is that of something hidden. -/
theorem isHidden_of_mem_visible (mem : found ∈ visibleFrom (tree.at? place)) :
    ∀ name ∈ found.path, isHidden name = false := by
  obtain ⟨entries, -, reaches⟩ := mem_filesFrom_iff.mp mem
  exact reaches.visible

/-- A file below a directory is found from there if no name on the way is that of something
hidden. -/
theorem mem_visibleFrom (further : rest ≠ [])
    (leads : tree.at? (place ++ rest) = some (.file content))
    (visible : ∀ name ∈ rest, isHidden name = false) :
    ⟨rest, content⟩ ∈ visibleFrom (tree.at? place) := by
  rw [at?_append] at leads
  obtain ⟨entry, there, below⟩ := Option.bind_eq_some_iff.mp leads
  cases entry with
  | file content => exact absurd (at?_file_eq_some below).1 further
  | directory entries =>
    exact mem_filesFrom_iff.mpr ⟨entries, there, reaches_visible below visible⟩

/-- The visible files below a directory are those that no hidden name leads to. -/
theorem mem_visibleFrom_iff (isTree : tree.IsTree) :
    found ∈ visibleFrom (tree.at? place) ↔ found.path ≠ [] ∧
      tree.at? (place ++ found.path) = some (.file found.content) ∧
        ∀ name ∈ found.path, isHidden name = false := by
  constructor
  · intro mem
    exact ⟨path_ne_nil mem, at?_of_mem_filesFrom isTree mem, isHidden_of_mem_visible mem⟩
  · rintro ⟨further, leads, visible⟩
    exact mem_visibleFrom further leads visible

/-- In trees that are the same the same visible files are found, in some order. -/
theorem perm_visibleFrom (isTree : tree.IsTree) (isTree' : other.IsTree)
    (same : tree.SameTree other) (place : List String) :
    (visibleFrom (other.at? place)).Perm (visibleFrom (tree.at? place)) := by
  refine (List.perm_ext_iff_of_nodup ?_ ?_).mpr fun found => ?_
  · exact (nodup_paths_filesFrom isTree' place).of_map _
  · exact (nodup_paths_filesFrom isTree place).of_map _
  · rw [mem_visibleFrom_iff isTree, mem_visibleFrom_iff isTree', SameAt.at?_eq_file_iff (same _)]

/-! ### Below a path -/

namespace Disk

variable {disk : Disk} {directory : String}

/-- What is found below a path is found below the place that the path leads to. -/
theorem exists_of_mem_visibleFrom (mem : found ∈ visibleFrom (disk.entry? directory)) :
    ∃ place, disk.entry? directory = disk.root.at? place := by
  rw [Disk.entry?] at mem ⊢
  cases located : disk.locate? directory with
  | none =>
    rw [located] at mem
    exact absurd mem List.not_mem_nil
  | some place => exact ⟨place, rfl⟩

/-- The visible files below a path are those that no hidden name leads to from there. -/
theorem mem_visibleFrom_iff (isTree : disk.root.IsTree) :
    found ∈ visibleFrom (disk.entry? directory) ↔ found.path ≠ [] ∧
      ((disk.entry? directory).bind fun entry => entry.at? found.path) =
          some (.file found.content) ∧
        ∀ name ∈ found.path, isHidden name = false := by
  have below (place : List String) :
      ((disk.root.at? place).bind fun entry => entry.at? found.path) =
        disk.root.at? (place ++ found.path) := (at?_append _ _ _).symm
  constructor
  · intro mem
    obtain ⟨place, there⟩ := exists_of_mem_visibleFrom mem
    rw [there] at mem ⊢
    rw [below]
    exact (Files.mem_visibleFrom_iff isTree).mp mem
  · rintro ⟨further, leads, visible⟩
    obtain ⟨entry, there, -⟩ := Option.bind_eq_some_iff.mp leads
    obtain ⟨place, -, found_eq⟩ := Option.bind_eq_some_iff.mp there
    rw [there, ← found_eq] at leads ⊢
    rw [below] at leads
    exact mem_visibleFrom further leads visible

/-- The visible files below a path have names of files. -/
theorem isFileName_of_mem (isTree : disk.root.IsTree) (names : disk.root.HasFileNames)
    (mem : found ∈ visibleFrom (disk.entry? directory)) :
    found.path ≠ [] ∧ ∀ name ∈ found.path, IsFileName name := by
  obtain ⟨place, there⟩ := exists_of_mem_visibleFrom mem
  rw [there] at mem
  refine ⟨path_ne_nil mem, fun name inside => ?_⟩
  exact names.of_at? (at?_of_mem_filesFrom isTree mem) name (List.mem_append_right place inside)

/-- No visible file below a path is found twice. -/
theorem nodup_paths (isTree : disk.root.IsTree) (directory : String) :
    ((visibleFrom (disk.entry? directory)).map Found.path).Nodup := by
  rw [Disk.entry?]
  cases disk.locate? directory with
  | none => exact List.nodup_nil
  | some place => exact nodup_paths_filesFrom isTree place

end Disk

end Visible

/-! ## Walks that are up to others -/

section Others

variable {walk : Walker} {root other : Entry} {here path : List String} {found : Found}

/-- What is found at the end of a path is the file that lies there. -/
theorem foundAt?_eq_some_iff :
    foundAt? root here path = some found ↔
      path = found.path ∧ root.at? (here ++ found.path) = some (.file found.content) := by
  rw [foundAt?]
  split
  · next content there =>
    constructor
    · rintro ⟨⟩
      exact ⟨rfl, there⟩
    · rintro ⟨rfl, lies⟩
      cases there.symm.trans lies
      rfl
  · next noFile =>
    constructor
    · intro none
      cases none
    · rintro ⟨rfl, lies⟩
      exact absurd lies (noFile _)

namespace Walker

/-- A walk finds the files that lie where it comes to. -/
theorem mem_files_iff :
    found ∈ walk.files root here ↔
      found.path ∈ walk root here ∧ root.at? (here ++ found.path) = some (.file found.content) := by
  rw [files, List.mem_filterMap]
  constructor
  · rintro ⟨path, comes, isFound⟩
    obtain ⟨rfl, lies⟩ := foundAt?_eq_some_iff.mp isFound
    exact ⟨comes, lies⟩
  · rintro ⟨comes, lies⟩
    exact ⟨_, comes, foundAt?_eq_some_iff.mpr ⟨rfl, lies⟩⟩

/-- A walk that comes to nothing twice finds no file twice. -/
theorem nodup_files (once : (walk root here).Nodup) :
    ((walk.files root here).map Found.path).Nodup := by
  rw [files, List.map_filterMap]
  refine once.filterMap fun path path' _ isFound isFound' => ?_
  obtain ⟨found, some, rfl⟩ := Option.map_eq_some_iff.mp isFound
  obtain ⟨found', some', same⟩ := Option.map_eq_some_iff.mp isFound'
  rw [(foundAt?_eq_some_iff.mp some).1, (foundAt?_eq_some_iff.mp some').1, same]

/-- A walk finds one file at each path. -/
theorem eq_of_path_eq {found' : Found} (mem : found ∈ walk.files root here)
    (mem' : found' ∈ walk.files root here) (same : found.path = found'.path) : found = found' := by
  obtain ⟨-, lies⟩ := mem_files_iff.mp mem
  obtain ⟨-, lies'⟩ := mem_files_iff.mp mem'
  obtain ⟨path, content⟩ := found
  obtain ⟨path', content'⟩ := found'
  cases same
  cases lies.symm.trans lies'
  rfl

/-- In trees that are the same walks find the same files, if they come to the same paths. -/
theorem perm_files {walk' : Walker} (same : root.SameTree other)
    (perm : (walk' other here).Perm (walk root here)) :
    (walk'.files other here).Perm (walk.files root here) := by
  have alike : foundAt? other here = foundAt? root here := by
    funext path
    refine Option.ext fun found => ?_
    rw [foundAt?_eq_some_iff, foundAt?_eq_some_iff, SameAt.at?_eq_file_iff (same _)]
  rw [files, files, alike]
  exact perm.filterMap _

/-- A walk goes by what lies under certain names, where names are used once: it comes to nothing
twice, and whether it comes to a file depends only on that the file is there and on what lies under
the names, wherever in the tree. -/
structure GoesBy (walk : Walker) (names : List String) : Prop where
  /-- The walk comes to nothing twice. -/
  once : ∀ root, root.IsTree → ∀ here, (walk root here).Nodup
  /-- A file that the walk comes to in one tree, it comes to in another one that has the file and
  holds the same under the names. -/
  alike : ∀ root other, root.IsTree → other.IsTree → SameUnder names root other →
    ∀ here path content content', root.at? (here ++ path) = some (.file content) →
      other.at? (here ++ path) = some (.file content') → path ∈ walk root here →
        path ∈ walk other here

/-- A file that a walk finds in one tree, it finds in another one that has the file and holds the
same under the names that the walk goes by. -/
theorem GoesBy.mem_files {names : List String} (goesBy : walk.GoesBy names) (isTree : root.IsTree)
    (isTree' : other.IsTree) (same : SameUnder names root other)
    (there : other.at? (here ++ found.path) = some (.file found.content))
    (mem : found ∈ walk.files root here) : found ∈ walk.files other here := by
  obtain ⟨comes, lies⟩ := mem_files_iff.mp mem
  exact mem_files_iff.mpr
    ⟨goesBy.alike root other isTree isTree' same here _ _ _ lies there comes, there⟩

end Walker

end Others

end TypedMvc.Files
