import TypedMvc.Proofs.PathPieces
import TypedMvc.Proofs.TreeGrowth

/-!
# Where paths lead in a larger tree

A path is followed from directory to directory (`Disk.follow?_eq_some_iff`). Where it leads to
something, it leads there in a larger tree as well (`Disk.Keeps.locate?_eq`), and to something of
the same kind. The other way round a path without a step up that leads to a directory of both trees
leads there in both (`follow_back`). A path below a directory is followed from where the directory
is (`Disk.locate?_join`).
-/

namespace TypedMvc.Files

open Entry

/-! ## Following paths -/

/-- Where a piece of a path leads from a place: it stays there, goes up, or goes down. -/
def stepFrom (here : List String) (piece : String) : List String :=
  if piece = "" ∨ piece = "." then here
  else if piece = ".." then here.dropLast
  else here ++ [piece]

variable {root tree : Entry} {here there : List String} {piece : String} {parts : List String}

/-- A piece that is no step up leads to the place itself or down from it. -/
theorem prefix_stepFrom (noUp : piece ≠ "..") : here <+: stepFrom here piece := by
  rw [stepFrom, if_neg noUp]
  split
  · exact List.prefix_rfl
  · exact List.prefix_append here [piece]

namespace Disk

/-- A piece is followed from a directory, to where something is. -/
theorem follow?_eq_some_iff :
    follow? root here piece = some there ↔
      root.HasDirectory here ∧ there = stepFrom here piece ∧
        ∃ entry, root.at? there = some entry := by
  rw [follow?]
  split
  · rename_i entries found
    have directory : root.HasDirectory here := ⟨entries, found⟩
    rw [stepFrom]
    -- The step stays, goes up, or goes down to an entry of the directory.
    split
    · constructor
      · rintro ⟨⟩
        exact ⟨directory, rfl, _, found⟩
      · rintro ⟨-, rfl, -⟩
        rfl
    · split
      · constructor
        · rintro ⟨⟩
          obtain ⟨above, outer⟩ := directory.dropLast
          exact ⟨directory, rfl, _, outer⟩
        · rintro ⟨-, rfl, -⟩
          rfl
      · rw [← at?_concat found piece]
        constructor
        · intro followed
          split at followed
          · rename_i isSome
            cases followed
            exact ⟨directory, rfl, Option.isSome_iff_exists.mp isSome⟩
          · cases followed
        · rintro ⟨-, rfl, child⟩
          rw [if_pos (Option.isSome_iff_exists.mpr child)]
  · rename_i noDirectory
    constructor
    · intro followed
      cases followed
    · rintro ⟨⟨entries, found⟩, -⟩
      exact absurd found (noDirectory entries)

/-- A path is followed piece by piece. -/
theorem follow_cons_eq_some_iff :
    (piece :: parts).foldlM (follow? root) here = some there ↔
      root.HasDirectory here ∧ (∃ entry, root.at? (stepFrom here piece) = some entry) ∧
        parts.foldlM (follow? root) (stepFrom here piece) = some there := by
  have cons : (piece :: parts).foldlM (follow? root) here = some there ↔
      ∃ next, follow? root here piece = some next ∧
        parts.foldlM (follow? root) next = some there := by
    rw [List.foldlM_cons]
    exact Option.bind_eq_some_iff
  simp only [cons, follow?_eq_some_iff]
  constructor
  · rintro ⟨_, ⟨directory, rfl, found⟩, further⟩
    exact ⟨directory, found, further⟩
  · rintro ⟨directory, found, further⟩
    exact ⟨_, ⟨directory, rfl, found⟩, further⟩

end Disk

/-- A path that leads somewhere leads there in a larger tree as well. -/
theorem KeepsKinds.follow (keeps : KeepsKinds root tree)
    (followed : parts.foldlM (Disk.follow? root) here = some there) :
    parts.foldlM (Disk.follow? tree) here = some there := by
  induction parts generalizing here with
  | nil => exact followed
  | cons piece rest ih =>
    obtain ⟨directory, ⟨entry, found⟩, further⟩ := Disk.follow_cons_eq_some_iff.mp followed
    obtain ⟨entry', found', -⟩ := keeps _ entry found
    exact Disk.follow_cons_eq_some_iff.mpr
      ⟨keeps.hasDirectory directory, ⟨entry', found'⟩, ih further⟩

/-- A path without a step up that leads to a directory of another tree leads there in that tree. -/
theorem follow_back (noUp : ".." ∉ parts)
    (followed : parts.foldlM (Disk.follow? tree) here = some there)
    (directory : root.HasDirectory there) :
    here <+: there ∧ parts.foldlM (Disk.follow? root) here = some there := by
  induction parts generalizing here with
  | nil =>
    cases followed
    exact ⟨List.prefix_rfl, rfl⟩
  | cons piece rest ih =>
    rw [List.mem_cons, not_or] at noUp
    obtain ⟨-, -, further⟩ := Disk.follow_cons_eq_some_iff.mp followed
    obtain ⟨below, further'⟩ := ih noUp.2 further
    have down : here <+: stepFrom here piece := prefix_stepFrom (Ne.symm noUp.1)
    -- Everything on the way to a directory is one, in whichever tree.
    obtain ⟨entries, found⟩ := directory.of_prefix below
    exact ⟨down.trans below, Disk.follow_cons_eq_some_iff.mpr
      ⟨directory.of_prefix (down.trans below), ⟨_, found⟩, further'⟩⟩

/-! ## Disks -/

namespace Disk

/-- One disk has all that another one has, each thing of its kind. -/
structure Keeps (before after : Disk) : Prop where
  /-- The program is at the same place. -/
  workingDirectory : after.workingDirectory = before.workingDirectory
  /-- What is a file or a directory stays one. -/
  kinds : KeepsKinds before.root after.root

variable {disk before after : Disk} {path directory : String} {place : List String}

/-- A path that is not empty leads where its pieces do. -/
theorem locate?_eq_some_iff :
    disk.locate? path = some place ↔
      path ≠ "" ∧ (Text.pieces '/' path).foldlM (follow? disk.root) (disk.start path) =
        some place := by
  rw [locate?]
  by_cases empty : path = ""
  · simp [empty]
  · simp [empty]

/-- The start of a path is the same on both disks. -/
theorem Keeps.start_eq (keeps : before.Keeps after) (path : String) :
    after.start path = before.start path := by
  rw [start, start, keeps.workingDirectory]

/-- A path that leads somewhere leads there on the other disk. -/
theorem Keeps.locate?_eq (keeps : before.Keeps after) (located : before.locate? path = some place) :
    after.locate? path = some place := by
  rw [locate?_eq_some_iff] at located ⊢
  rw [keeps.start_eq]
  exact located.imp_right keeps.kinds.follow

/-- A path that leads somewhere on both disks leads to the same place. -/
theorem Keeps.place_eq {later : List String} (keeps : before.Keeps after)
    (located : before.locate? path = some place) (located' : after.locate? path = some later) :
    later = place :=
  Option.some.inj (located'.symm.trans (keeps.locate?_eq located))

/-- What a path names is of its kind on the other disk. -/
theorem Keeps.entry?_eq {entry : Entry} (keeps : before.Keeps after)
    (found : before.entry? path = some entry) :
    ∃ entry', after.entry? path = some entry' ∧ entry'.isDirectory = entry.isDirectory := by
  obtain ⟨place, located, there⟩ := Option.bind_eq_some_iff.mp found
  obtain ⟨entry', there', kind⟩ := keeps.kinds place entry there
  exact ⟨entry', by rw [Disk.entry?, keeps.locate?_eq located, Option.bind_some, there'], kind⟩

/-- A path names a directory if what it names is one. -/
theorem isDirectory_iff :
    disk.isDirectory path = true ↔ ∃ entry, disk.entry? path = some entry ∧
      entry.isDirectory = true := by
  rw [isDirectory]
  cases disk.entry? path <;> simp

/-- A path names a file if what it names is no directory. -/
theorem isFile_iff :
    disk.isFile path = true ↔ ∃ entry, disk.entry? path = some entry ∧
      entry.isDirectory = false := by
  rw [isFile]
  cases disk.entry? path <;> simp

/-- A path with bytes to be read names a file. -/
theorem isFile_of_read? {content : ByteArray} (holds : disk.read? path = some content) :
    disk.isFile path = true := by
  rw [read?] at holds
  split at holds
  · rename_i found
    exact isFile_iff.mpr ⟨_, found, rfl⟩
  · cases holds

/-- The bytes of a file are read by a path that leads to it. -/
theorem read?_of_locate? {content : ByteArray} (located : disk.locate? path = some place)
    (there : disk.root.at? place = some (.file content)) : disk.read? path = some content := by
  rw [read?, Disk.entry?, located, Option.bind_some, there]

/-- A path that names a directory names one on the other disk. -/
theorem Keeps.isDirectory_eq (keeps : before.Keeps after)
    (isDirectory : before.isDirectory path = true) : after.isDirectory path = true := by
  obtain ⟨entry, found, kind⟩ := isDirectory_iff.mp isDirectory
  obtain ⟨entry', found', kind'⟩ := keeps.entry?_eq found
  exact isDirectory_iff.mpr ⟨entry', found', kind'.trans kind⟩

/-- A path that names a file names one on the other disk. -/
theorem Keeps.isFile_eq (keeps : before.Keeps after) (isFile : before.isFile path = true) :
    after.isFile path = true := by
  obtain ⟨entry, found, kind⟩ := isFile_iff.mp isFile
  obtain ⟨entry', found', kind'⟩ := keeps.entry?_eq found
  exact isFile_iff.mpr ⟨entry', found', kind'.trans kind⟩

/-- A path does not name a directory and a file. -/
theorem isFile_eq_false (isDirectory : disk.isDirectory path = true) :
    disk.isFile path = false := by
  obtain ⟨entry, found, kind⟩ := isDirectory_iff.mp isDirectory
  rw [isFile, found, Option.any_some, kind, Bool.not_true]

/-- Where a path below a directory goes on from. -/
def startBelow (place : List String) (path : String) : List String :=
  if Path.isAbsolute path then [] else place

/-- A path below a directory begins with pieces that lead to where the path itself goes on. -/
theorem exists_front (located : disk.locate? directory = some place) (path : String) :
    ∃ front, Text.pieces '/' (Path.join directory path) = front ++ Text.pieces '/' path ∧
      front.foldlM (follow? disk.root) (disk.start (Path.join directory path)) =
        some (startBelow place path) := by
  obtain ⟨nonempty, followed⟩ := locate?_eq_some_iff.mp located
  cases absolute : Path.isAbsolute path with
  | true =>
    have whole : Path.join directory path = path := by simp [Path.join, absolute]
    refine ⟨[], by rw [whole, List.nil_append], ?_⟩
    rw [whole, start, absolute, startBelow, absolute]
    rfl
  | false =>
    obtain ⟨front, -, split, joined⟩ := Path.exists_pieces_join nonempty absolute
    refine ⟨front, joined, ?_⟩
    have same : disk.start (Path.join directory path) = disk.start directory := by
      rw [start, start, Path.isAbsolute_join nonempty absolute]
    rw [same, startBelow, absolute, if_neg (by decide)]
    rcases split with same | last
    · rwa [same] at followed
    · -- An empty last piece of the directory stays where the others lead.
      rw [last, List.foldlM_append] at followed
      obtain ⟨there, leads, stays⟩ := Option.bind_eq_some_iff.mp followed
      obtain ⟨-, -, same⟩ := follow_cons_eq_some_iff.mp stays
      cases same
      exact leads

/-- A path below a directory is followed from where the directory is. -/
theorem locate?_join (located : disk.locate? directory = some place) (path : String) :
    disk.locate? (Path.join directory path) =
      (Text.pieces '/' path).foldlM (follow? disk.root) (startBelow place path) := by
  obtain ⟨front, split, followed⟩ := exists_front located path
  rw [locate?, if_neg (Path.join_ne_empty (locate?_eq_some_iff.mp located).1), split,
    List.foldlM_append, followed]
  rfl

/-- A name below a directory names the entry of the directory that has it, if there is one. -/
theorem entry?_join_name {name : String} (located : disk.locate? directory = some place)
    (isDirectory : disk.root.HasDirectory place) (single : Text.pieces '/' name = [name])
    (down : stepFrom place name = place ++ [name]) (relative : Path.isAbsolute name = false) :
    disk.entry? (Path.join directory name) = disk.root.at? (place ++ [name]) := by
  have start : startBelow place name = place := by rw [startBelow, relative]; rfl
  rw [Disk.entry?, locate?_join located, single, start]
  cases followed : [name].foldlM (follow? disk.root) place with
  | some there =>
    obtain ⟨-, -, same⟩ := follow_cons_eq_some_iff.mp followed
    cases same
    rw [Option.bind_some, down]
  | none =>
    cases found : disk.root.at? (place ++ [name]) with
    | none => rfl
    | some entry =>
      have leads := follow_cons_eq_some_iff.mpr
        ⟨isDirectory, ⟨entry, down ▸ found⟩, (rfl : [].foldlM (follow? disk.root) _ = some _)⟩
      rw [followed] at leads
      cases leads

/-- A path below a directory goes on from a directory. -/
theorem hasDirectory_startBelow (directory : disk.root.HasDirectory place) (path : String) :
    disk.root.HasDirectory (startBelow place path) := by
  rw [startBelow]
  split
  · exact @HasDirectory.of_append _ [] place directory
  · exact directory

/-- A path without a step up that leads to a directory of both disks from the same directory leads
there on both. -/
theorem Keeps.locate?_join_back (keeps : before.Keeps after)
    (located : before.locate? directory = some place) (noUp : ".." ∉ Text.pieces '/' path)
    {there : List String} (found : after.locate? (Path.join directory path) = some there)
    (isDirectory : before.root.HasDirectory there) :
    before.locate? (Path.join directory path) = some there := by
  rw [locate?_join (keeps.locate?_eq located)] at found
  rw [locate?_join located]
  exact (follow_back noUp found isDirectory).2

end Disk

end TypedMvc.Files
