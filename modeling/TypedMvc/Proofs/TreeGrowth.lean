import Mathlib.Logic.Relation
import TypedMvc.Proofs.TreeWrites

/-!
# Trees to which one file is added

Writing a file sets one entry after another: the directories that are missing on the way, each
where nothing was, and the file, where no directory is. `Step` is one of these and `Grows` a run of
them. What each step keeps, a run keeps: files stay files and directories stay directories
(`Grows.keepsKinds`), names are used once (`Grows.isTree`), and only the output is another file than
before (`Grows.at?_eq_file_iff`). Under names that nothing is set by, the tree stays the same
(`Grows.sameUnder`).
-/

namespace TypedMvc.Files

open Entry

/-! ## Steps -/

/-- What may be set at a place: an empty directory if nothing is there, and a file at the place of
the output if no directory is there. -/
inductive Fits (output : List String) (tree : Entry) (place : List String) : Entry → Prop where
  /-- A directory that is missing. -/
  | directory (free : tree.at? place = none) : Fits output tree place (.directory [])
  /-- The output. -/
  | file (content : ByteArray) (isOutput : place = output)
      (noDirectory : ¬ tree.HasDirectory place) : Fits output tree place (.file content)

/-- A tree becomes another one by an entry that is set in one of its directories, under another name
than certain ones. -/
inductive Step (names : List String) (output : List String) (tree : Entry) : Entry → Prop where
  /-- The entry fits its place. -/
  | set {above : List String} {name : String} {target : Entry} (room : tree.HasDirectory above)
      (other : name ∉ names) (fits : Fits output tree (above ++ [name]) target) :
      Step names output tree (put target (above ++ [name]) tree)

/-- A tree becomes another one by entries that are set one after another. -/
abbrev Grows (names : List String) (output : List String) : Entry → Entry → Prop :=
  Relation.ReflTransGen (Step names output)

/-- What is a file or a directory in one tree is so in another one. -/
def KeepsKinds (before after : Entry) : Prop :=
  ∀ place entry, before.at? place = some entry →
    ∃ entry', after.at? place = some entry' ∧ entry'.isDirectory = entry.isDirectory

variable {names output place : List String} {root tree after target : Entry}

/-- A directory is what is said to be one. -/
theorem hasDirectory_iff :
    tree.HasDirectory place ↔ ∃ entry, tree.at? place = some entry ∧ entry.isDirectory = true := by
  constructor
  · rintro ⟨entries, there⟩
    exact ⟨.directory entries, there, rfl⟩
  · rintro ⟨_ | entries, there, isDirectory⟩
    · cases isDirectory
    · exact ⟨entries, there⟩

/-- Where kinds are kept, directories are. -/
theorem KeepsKinds.hasDirectory (keeps : KeepsKinds tree after) (there : tree.HasDirectory place) :
    after.HasDirectory place := by
  obtain ⟨entry, found, isDirectory⟩ := hasDirectory_iff.mp there
  obtain ⟨entry', found', kind⟩ := keeps place entry found
  exact hasDirectory_iff.mpr ⟨entry', found', kind.trans isDirectory⟩

/-- What may be set at a place is of the kind of what is there, and no directory is. -/
theorem Fits.kind {entry : Entry} (fits : Fits output tree place target)
    (there : tree.at? place = some entry) :
    target.isDirectory = false ∧ entry.isDirectory = false := by
  cases fits with
  | directory free => cases free.symm.trans there
  | file content isOutput noDirectory =>
    refine ⟨rfl, ?_⟩
    cases entry with
    | file content => rfl
    | directory entries => exact absurd ⟨entries, there⟩ noDirectory

/-- Nothing is set where a directory is. -/
theorem Fits.noDirectory (fits : Fits output tree place target) :
    ¬ tree.HasDirectory place := by
  rintro ⟨entries, there⟩
  cases (fits.kind there).2

/-- A step turns no file into a directory and no directory into a file, and takes nothing away. -/
theorem Step.keepsKinds (step : Step names output tree after) : KeepsKinds tree after := by
  rintro place entry there
  obtain @⟨above, name, target, room, -, fits⟩ := step
  by_cases below : above ++ [name] <+: place
  · -- What was there was a file, so the place is that of the entry itself.
    obtain ⟨rest, rfl⟩ := below
    rw [at?_append] at there
    obtain ⟨old, found, further⟩ := Option.bind_eq_some_iff.mp there
    obtain ⟨isFile, wasFile⟩ := fits.kind found
    cases old with
    | directory entries => cases wasFile
    | file content =>
      obtain ⟨rfl, rfl⟩ := at?_file_eq_some further
      rw [List.append_nil]
      exact ⟨target, at?_put_self room, isFile⟩
  · by_cases onTheWay : place <+: above ++ [name]
    · obtain ⟨rest, split⟩ := onTheWay
      cases rest with
      | nil => exact absurd ⟨[], by rw [← split, List.append_nil, List.append_nil]⟩ below
      | cons next rest =>
        rw [← split, at?_put_above tree place (List.cons_ne_nil next rest), there]
        exact ⟨_, rfl, isDirectory_put rest⟩
    · rw [at?_put_apart below onTheWay]
      exact ⟨entry, there, rfl⟩

/-- A run of steps turns no file into a directory and no directory into a file, and takes nothing
away. -/
theorem Grows.keepsKinds (grows : Grows names output root tree) : KeepsKinds root tree := by
  induction grows with
  | refl => exact fun place entry there => ⟨entry, there, rfl⟩
  | tail _ step ih =>
    intro place entry there
    obtain ⟨middle, found, kind⟩ := ih place entry there
    obtain ⟨last, found', kind'⟩ := step.keepsKinds place middle found
    exact ⟨last, found', kind'.trans kind⟩

/-- There is nothing below what may be set. -/
theorem Fits.at?_eq_none (fits : Fits output tree place target) {rest : List String}
    (further : rest ≠ []) : target.at? rest = none := by
  obtain ⟨name, rest, rfl⟩ := List.exists_cons_of_ne_nil further
  cases fits <;> rfl

/-- What may be set uses no name twice. -/
theorem Fits.isTree (fits : Fits output tree place target) : target.IsTree := by
  cases fits with
  | directory free => exact .directory List.nodup_nil (List.forall_mem_nil _)
  | file content isOutput noDirectory => exact .file content

/-- In a tree that grows names are used once, if they were before. -/
theorem Grows.isTree (grows : Grows names output root tree) (isTree : root.IsTree) :
    tree.IsTree := by
  induction grows with
  | refl => exact isTree
  | tail _ step ih =>
    obtain ⟨room, other, fits⟩ := step
    exact ih.put fits.isTree _

/-- What may be set at a place leaves all other places the same. -/
theorem sameAt_put_of_fits (fits : Fits output tree place target) {other : List String}
    (differ : other ≠ place) : SameAt tree (put target place tree) other :=
  sameAt_put (fun _ => fits.at?_eq_none) fits.noDirectory differ

/-- Under the names that nothing is set by, a tree that grows stays the same. -/
theorem Grows.sameUnder (grows : Grows names output root tree) : SameUnder names root tree := by
  intro above name kept
  induction grows with
  | refl => rfl
  | tail _ step ih =>
    obtain ⟨room, other, fits⟩ := step
    refine ih.trans (sameAt_put_of_fits fits fun same => other ?_)
    obtain ⟨-, lasts⟩ := List.append_inj' same rfl
    exact List.singleton_injective lasts ▸ kept

/-- In a tree that grows there are the same files, but for the output. -/
theorem Grows.at?_eq_file_iff (grows : Grows names output root tree) (differ : place ≠ output)
    {content : ByteArray} :
    tree.at? place = some (.file content) ↔ root.at? place = some (.file content) := by
  induction grows with
  | refl => exact Iff.rfl
  | @tail middle last _ step ih =>
    obtain @⟨above, name, target, room, -, fits⟩ := step
    rw [← ih]
    by_cases isSet : place = above ++ [name]
    · -- What is set here is a directory, and nothing was here before.
      subst isSet
      cases fits with
      | file _ isOutput _ => exact absurd isOutput differ
      | directory free => simp [free, at?_put_self room]
    · exact (sameAt_put_of_fits fits isSet).at?_eq_file_iff

end TypedMvc.Files
