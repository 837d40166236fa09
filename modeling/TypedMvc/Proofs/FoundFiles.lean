import Mathlib.Data.List.TakeWhile
import TypedMvc.Proofs.WalkedFiles

/-!
# Files by their paths and names

The path of a file leads to it also when it is followed from the text of the path
(`Disk.locate?_join_names`). The extension of a file is what stands behind the last dot of its name,
if there is something in front of that (`HasExtension`, `splitExtension_eq_iff`). Whether the names
in a tree are as files have them can be computed (`Entry.isWellNamed`).
-/

namespace TypedMvc.Files

open Entry

/-! ## The names in a tree -/

mutual
/-- Whether no directory of a tree has two entries of one name, and all are called by names of
files. -/
def Entry.isWellNamed : Entry → Bool
  | .file _ => true
  | .directory entries => decide (entries.map Prod.fst).Nodup && areWellNamed entries

/-- Whether entries are called by names of files, and are well named themselves. -/
def Entry.areWellNamed : List (String × Entry) → Bool
  | [] => true
  | (name, entry) :: rest => decide (IsFileName name) && entry.isWellNamed && areWellNamed rest
end

mutual
/-- What is well named has the names of a tree. -/
theorem Entry.isTree_of_isWellNamed : (tree : Entry) → tree.isWellNamed = true →
    tree.IsTree ∧ tree.HasFileNames
  | .file content, _ => ⟨.file content, .file content⟩
  | .directory entries, named => by
    rw [isWellNamed, Bool.and_eq_true, decide_eq_true_iff] at named
    have below := forall_of_areWellNamed entries named.2
    exact ⟨.directory named.1 fun entry mem => (below entry mem).2.1,
      .directory (fun entry mem => (below entry mem).1) fun entry mem => (below entry mem).2.2⟩

/-- Each of several well named entries is called by the name of a file, and has the names of a
tree. -/
theorem Entry.forall_of_areWellNamed : (entries : List (String × Entry)) →
    areWellNamed entries = true →
      ∀ named ∈ entries, IsFileName named.1 ∧ named.2.IsTree ∧ named.2.HasFileNames
  | [], _ => List.forall_mem_nil _
  | (name, entry) :: rest, named => by
    rw [areWellNamed, Bool.and_eq_true, Bool.and_eq_true, decide_eq_true_iff] at named
    obtain ⟨⟨fileName, below⟩, further⟩ := named
    exact List.forall_mem_cons.mpr
      ⟨⟨fileName, isTree_of_isWellNamed entry below⟩, forall_of_areWellNamed rest further⟩
end

/-! ## Paths that are followed by their names -/

section Names

variable {root : Entry} {disk : Disk} {directory : String} {here place names : List String}
  {entry : Entry}

/-- The name of a file leads down. -/
theorem stepFrom_of_isFileName {name : String} (isName : IsFileName name) :
    stepFrom here name = here ++ [name] := by
  rw [stepFrom, if_neg (not_or.mpr ⟨isName.nonempty, isName.notHere⟩), if_neg isName.notUp]

/-- Something in an entry makes that a directory. -/
theorem hasDirectory_of_at?_append {name : String}
    (found : root.at? (here ++ name :: names) = some entry) : root.HasDirectory here := by
  rw [at?_append] at found
  obtain ⟨above, there, below⟩ := Option.bind_eq_some_iff.mp found
  cases above with
  | file content => exact absurd (at?_file_eq_some below).1 (List.cons_ne_nil _ _)
  | directory entries => exact ⟨entries, there⟩

/-- Names of files are followed to what lies under them. -/
theorem follow_names (fileNames : ∀ name ∈ names, IsFileName name)
    (found : root.at? (here ++ names) = some entry) :
    names.foldlM (Disk.follow? root) here = some (here ++ names) := by
  induction names generalizing here with
  | nil => rw [List.append_nil]; rfl
  | cons name rest ih =>
    obtain ⟨isName, further⟩ := List.forall_mem_cons.mp fileNames
    have directory := hasDirectory_of_at?_append found
    rw [List.append_cons] at found ⊢
    have next : ∃ below, root.at? (here ++ [name]) = some below := by
      rw [at?_append] at found
      obtain ⟨below, there, -⟩ := Option.bind_eq_some_iff.mp found
      exact ⟨below, there⟩
    rw [Disk.follow_cons_eq_some_iff, stepFrom_of_isFileName isName]
    exact ⟨directory, next, ih further found⟩

/-- A path of names below a directory leads to what lies under the names. -/
theorem Disk.locate?_join_names (located : disk.locate? directory = some place)
    (nonempty : names ≠ []) (fileNames : ∀ name ∈ names, IsFileName name)
    (found : disk.root.at? (place ++ names) = some entry) :
    disk.locate? (Path.join directory (Text.join "/" names)) = some (place ++ names) := by
  have relative := Path.isAbsolute_join_names nonempty fileNames
  rw [Disk.locate?_join located, Disk.startBelow, relative, if_neg (by decide),
    Text.pieces_join nonempty fun name mem => (fileNames name mem).whole]
  exact follow_names fileNames found

/-- Pieces of a path that stay where they are can be left out. -/
theorem follow_filter {parts : List String} {there : List String}
    (followed : parts.foldlM (Disk.follow? root) here = some there) :
    (parts.filter fun piece => piece ≠ "" ∧ piece ≠ ".").foldlM (Disk.follow? root) here =
      some there := by
  induction parts generalizing here with
  | nil => exact followed
  | cons piece rest ih =>
    obtain ⟨directory, next, further⟩ := Disk.follow_cons_eq_some_iff.mp followed
    by_cases moves : piece ≠ "" ∧ piece ≠ "."
    · rw [List.filter_cons_of_pos (by simpa using moves)]
      exact Disk.follow_cons_eq_some_iff.mpr ⟨directory, next, ih further⟩
    · have stays : piece = "" ∨ piece = "." := by
        by_contra other
        exact moves (not_or.mp other)
      rw [stepFrom, if_pos stays] at further
      rw [List.filter_cons_of_neg (by simpa using moves)]
      exact ih further

/-- A directory is there if a relative path below it leads somewhere. -/
theorem Disk.exists_locate?_of_join {path : String} {there : List String}
    (nonempty : directory ≠ "") (relative : Path.isAbsolute path = false)
    (located : disk.locate? (Path.join directory path) = some there) :
    ∃ place, disk.locate? directory = some place := by
  obtain ⟨front, -, split, joined⟩ := Path.exists_pieces_join nonempty relative
  have start : disk.start (Path.join directory path) = disk.start directory := by
    rw [Disk.start, Disk.start, Path.isAbsolute_join nonempty relative]
  rw [Disk.locate?_eq_some_iff, joined, start, List.foldlM_append] at located
  obtain ⟨place, reached, further⟩ := Option.bind_eq_some_iff.mp located.2
  refine ⟨place, Disk.locate?_eq_some_iff.mpr ⟨nonempty, ?_⟩⟩
  rcases split with same | last
  · rw [same]
    exact reached
  · -- The path goes on from a directory, so an empty last piece of the directory stays there.
    obtain ⟨first, others, pieces⟩ := List.exists_cons_of_ne_nil (Text.pieces_ne_nil path)
    rw [pieces] at further
    obtain ⟨isDirectory, -, -⟩ := Disk.follow_cons_eq_some_iff.mp further
    obtain ⟨entries, there⟩ := isDirectory
    have stays : stepFrom place "" = place := if_pos (Or.inl rfl)
    have last_step : [""].foldlM (Disk.follow? disk.root) place = some place := by
      rw [Disk.follow_cons_eq_some_iff, stays]
      exact ⟨⟨entries, there⟩, ⟨_, there⟩, rfl⟩
    rw [last, List.foldlM_append, reached]
    exact last_step

end Names

/-! ## Extensions -/

/-- A file name has an extension: the part behind its last dot, if there is something in front of
the dot. -/
structure HasExtension (name stem extension : String) : Prop where
  /-- A dot is between the two parts. -/
  split : name = stem ++ "." ++ extension
  /-- It is the last one. -/
  last : '.' ∉ extension.toList
  /-- It is not the first character. -/
  front : stem ≠ ""

/-- What is behind the last occurrence of a character does not contain it. -/
theorem not_mem_afterLast (separator : Char) (text : List Char) :
    separator ∉ Text.afterLast separator text := by
  intro mem
  rw [Text.afterLast, List.mem_reverse] at mem
  simpa using List.mem_takeWhile_imp mem

/-- A text is all behind the last occurrence of a character, or has the character in front of
that. -/
theorem afterLast_eq_or (separator : Char) (text : List Char) :
    Text.afterLast separator text = text ∨
      ∃ front, text = front ++ separator :: Text.afterLast separator text := by
  have split := List.takeWhile_append_dropWhile (p := (· ≠ separator)) (l := text.reverse)
  rw [Text.afterLast]
  cases behind : text.reverse.dropWhile (· ≠ separator) with
  | nil =>
    rw [behind, List.append_nil] at split
    rw [split, List.reverse_reverse]
    exact Or.inl rfl
  | cons c rest =>
    have stops : c = separator := by
      have first := List.head?_dropWhile_not (· ≠ separator) text.reverse
      rw [behind] at first
      simpa using first
    refine Or.inr ⟨rest.reverse, ?_⟩
    have turned := congrArg List.reverse split
    rw [behind, stops, List.reverse_append, List.reverse_reverse, List.reverse_cons,
      List.append_assoc, List.singleton_append] at turned
    exact turned.symm

/-- What is behind a character that does not come again is all behind its last occurrence. -/
theorem afterLast_append {separator : Char} {behind : List Char} (front : List Char)
    (last : separator ∉ behind) :
    Text.afterLast separator (front ++ separator :: behind) = behind := by
  have passed : ∀ c ∈ behind.reverse, (decide (c ≠ separator)) = true := by
    intro c mem
    refine decide_eq_true ?_
    rintro rfl
    exact last (List.mem_reverse.mp mem)
  rw [Text.afterLast, List.reverse_append, List.reverse_cons, List.append_assoc,
    List.takeWhile_append_of_pos passed, List.singleton_append,
    List.takeWhile_cons_of_neg (by simp), List.append_nil, List.reverse_reverse]

/-- A name with a dot in it is cut at the last one, if there is something in front of that. -/
theorem splitExtension_of_dotted {name : String} {front behind : List Char}
    (split : name.toList = front ++ '.' :: behind) (last : '.' ∉ behind) :
    Path.splitExtension name =
      if front = [] then (name, none)
      else (String.ofList front, some (String.ofList behind)) := by
  have short : behind.length + 1 < (front ++ '.' :: behind).length ↔ ¬ front = [] := by
    rw [List.length_append, List.length_cons, ← List.length_eq_zero_iff]
    omega
  have count : (front ++ '.' :: behind).length - behind.length - 1 = front.length := by
    rw [List.length_append, List.length_cons]
    omega
  rw [Path.splitExtension, split, afterLast_append front last, count, List.take_left]
  simp only [short, ite_not]

/-- A name is cut at its last dot into the part in front of it and its extension. -/
theorem splitExtension_eq_iff {name stem extension : String} :
    Path.splitExtension name = (stem, some extension) ↔ HasExtension name stem extension := by
  constructor
  · intro cut
    rcases afterLast_eq_or '.' name.toList with undotted | ⟨front, split⟩
    · rw [Path.splitExtension, undotted, if_neg (by omega)] at cut
      cases cut
    · have last := not_mem_afterLast '.' name.toList
      rw [splitExtension_of_dotted split last] at cut
      split at cut
      · cases cut
      · next someLeft =>
        obtain ⟨stem_eq, extension_eq⟩ := Prod.mk.inj cut
        obtain rfl := Option.some.inj extension_eq
        subst stem_eq
        refine ⟨?_, ?_, ?_⟩
        · apply String.toList_injective
          simpa using split
        · rw [String.toList_ofList]
          exact last
        · simpa using someLeft
  · rintro ⟨rfl, last, front⟩
    have split : (stem ++ "." ++ extension).toList = stem.toList ++ '.' :: extension.toList := by
      simp
    rw [splitExtension_of_dotted split last, if_neg (mt String.toList_eq_nil_iff.mp front),
      String.ofList_toList, String.ofList_toList]

/-- The extension of a name and the part in front of it. -/
theorem extension?_eq_some_iff {name extension : String} :
    Path.extension? name = some extension ↔ HasExtension name (Path.stem name) extension := by
  rw [← splitExtension_eq_iff, Path.extension?, Path.stem, Prod.ext_iff]
  exact (and_iff_right rfl).symm

/-- The part of a name in front of its extension. -/
theorem HasExtension.stem_eq {name stem extension : String}
    (has : HasExtension name stem extension) : Path.stem name = stem := by
  rw [Path.stem, splitExtension_eq_iff.mpr has]

/-- The extension of a name is there once. -/
theorem HasExtension.extension?_eq {name stem extension : String}
    (has : HasExtension name stem extension) : Path.extension? name = some extension := by
  rw [Path.extension?, splitExtension_eq_iff.mpr has]

end TypedMvc.Files
