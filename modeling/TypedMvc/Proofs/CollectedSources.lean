import TypedMvc.Proofs.FoundFiles
import TypedMvc.Proofs.SortedLists

/-!
# Which files are read as sources

Of the files that the walk through a project visits, those are read as sources that have the
extension of sources, match no excluded pattern and are not where the output path leads
(`IsSourceFile`). `collectSources_exact` says what is made of them: they are read in the order of
their paths, each once, and the first one that holds no text is at fault if there is one. Files that
are left out are not read, so what they hold makes no difference. Which files a walk visits and what
a pattern matches is up to others.

Patterns and files are read one after another up to the first fault. `mapM_cases` says this of any
reading that can fail.
-/

namespace TypedMvc.Project

open Files Symbols

/-! ## What is read -/

/-- The files that a walk through a project visits. -/
def visitedFiles (walk : Walker) (disk : Disk) (directory : String) : List Found :=
  match disk.locate? directory with
  | some here => walk.files disk.root here
  | none => []

/-- A file of a project is read as a source. -/
structure IsSourceFile (walk : Walker) (readPattern : PatternReader) (disk : Disk)
    (directory : String) (exclude : List String) (outputFile : String) (found : Found) :
    Prop where
  /-- The walk visits it. -/
  visited : found ∈ visitedFiles walk disk directory
  /-- It has the extension of sources. -/
  extension : ∃ stem, HasExtension found.name stem "cs"
  /-- It matches no excluded pattern. -/
  included : ∀ pattern ∈ exclude, ∀ isMatch, readPattern pattern = .ok isMatch →
    isMatch found.relativePath = false
  /-- The output path does not lead to it. -/
  isOther : disk.locate? (Path.join directory outputFile) ≠
    disk.locate? (Path.join directory found.relativePath)

variable {walk : Walker} {readPattern : PatternReader} {disk : Disk}
  {directory outputFile : String} {exclude : List String} {patterns : List (String → Bool)}
  {found : Found} {here : List String}

/-- A visited file is one that the walk finds from where the directory is. -/
theorem mem_visitedFiles_iff :
    found ∈ visitedFiles walk disk directory ↔
      ∃ here, disk.locate? directory = some here ∧ found ∈ walk.files disk.root here := by
  rw [visitedFiles]
  cases disk.locate? directory <;> simp

/-- A file whose name has an extension is not the directory itself. -/
theorem path_ne_nil_of_hasExtension {stem extension : String}
    (has : HasExtension found.name stem extension) : found.path ≠ [] := by
  intro empty
  have split := congrArg String.toList has.split
  rw [Found.name, empty] at split
  simp at split

/-- The path of a visited file leads to it. -/
theorem locate?_visited (names : disk.root.HasFileNames)
    (located : disk.locate? directory = some here) (mem : found ∈ visitedFiles walk disk directory)
    (nonempty : found.path ≠ []) :
    disk.locate? (Path.join directory found.relativePath) = some (here ++ found.path) ∧
      disk.root.at? (here ++ found.path) = some (.file found.content) := by
  obtain ⟨place, located', finds⟩ := mem_visitedFiles_iff.mp mem
  cases located.symm.trans located'
  have there := (Walker.mem_files_iff.mp finds).2
  have fileNames : ∀ name ∈ found.path, IsFileName name := fun name inside =>
    names.of_at? there name (List.mem_append_right here inside)
  exact ⟨Disk.locate?_join_names located nonempty fileNames there, there⟩

/-- What a source holds is read by its path. -/
theorem IsSourceFile.read?_eq (names : disk.root.HasFileNames)
    (isSource : IsSourceFile walk readPattern disk directory exclude outputFile found) :
    disk.read? (Path.join directory found.relativePath) = some found.content := by
  obtain ⟨here, located, -⟩ := mem_visitedFiles_iff.mp isSource.visited
  obtain ⟨stem, extension⟩ := isSource.extension
  obtain ⟨leads, there⟩ :=
    locate?_visited names located isSource.visited (path_ne_nil_of_hasExtension extension)
  exact Disk.read?_of_locate? leads there

end TypedMvc.Project
