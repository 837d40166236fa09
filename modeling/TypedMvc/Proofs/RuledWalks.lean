import TypedMvc.Files.Ignore
import TypedMvc.Proofs.WalkedFiles

/-!
# Walks by rules

The walk to the files that are not ignored goes by the rules around each directory. All of them lie
under a few names (`ruleNames`): two trees that hold the same under these have the same rules in
each directory (`ofDirectory_eq`), and so the same rules around a place of both
(`Surroundings.around_eq`). A file of both trees is then reached in both or in none
(`reaches_of_sameUnder`), so the walk goes by the names of rules (`goesBy_ruledWalk`). In trees that
are the same it comes to the same files (`perm_ruledWalk`).
-/

namespace TypedMvc.Files

open Entry

variable {root other entry entry' : Entry} {name : String} {here path place : List String}
  {content content' : ByteArray}

/-! ## Rules -/

/-- The names of the entries that decide which files are ignored. -/
def ruleNames : List String := [".ignore", ".gitignore", ".git", "exclude"]

/-- The same file holds the same rules. -/
theorem rulesIn_eq (same : SameAt entry entry' place) :
    rulesIn (entry'.at? place) = rulesIn (entry.at? place) :=
  same.apply_eq rulesIn fun _ _ => rfl

/-- Directories that hold the same under the names of rules hold the same rules. -/
theorem ofDirectory_eq (same : SameUnder ruleNames entry entry') :
    DirectoryRules.ofDirectory entry' = DirectoryRules.ofDirectory entry := by
  have general : SameAt entry entry' [".ignore"] := same [] ".ignore" (by decide)
  have tracked : SameAt entry entry' [".gitignore"] := same [] ".gitignore" (by decide)
  have excluded : SameAt entry entry' [".git", "info", "exclude"] :=
    same [".git", "info"] "exclude" (by decide)
  have data : SameAt entry entry' [".git"] := same [] ".git" (by decide)
  have begins : (entry'.at? [".git"]).isSome = (entry.at? [".git"]).isSome :=
    data.apply_eq Option.isSome fun _ _ => rfl
  simp only [DirectoryRules.ofDirectory, ← at?_singleton, rulesIn_eq general, rulesIn_eq tracked,
    rulesIn_eq excluded, begins]

/-- The rules around a place of two trees are the same, if something is at the place in both and the
trees hold the same under the names of rules. -/
theorem Surroundings.below_eq (same : SameUnder ruleNames root other) (surroundings : Surroundings)
    (there : root.at? here = some entry) (there' : other.at? here = some entry') :
    surroundings.below root here = surroundings.below other here := by
  induction here generalizing root other surroundings with
  | nil => rfl
  | cons name rest ih =>
    obtain ⟨child, found, further⟩ := Option.bind_eq_some_iff.mp there
    obtain ⟨child', found', further'⟩ := Option.bind_eq_some_iff.mp there'
    have sameBelow : SameUnder ruleNames child child' :=
      same.of_at? ((at?_singleton root name).trans found) ((at?_singleton other name).trans found')
    rw [below, below, found, found']
    dsimp only
    rw [enter, enter, ofDirectory_eq sameBelow]
    exact ih sameBelow _ further further'

/-- The rules around a place are those of all directories from the root to there. -/
theorem Surroundings.around_eq (same : SameUnder ruleNames root other)
    (there : root.at? here = some entry) (there' : other.at? here = some entry') :
    around root here = around other here := by
  rw [around, around, ofDirectory_eq same]
  exact below_eq same _ there there'

/-! ## The walk -/

/-- Lets a walk into what is not ignored. -/
def enterRules (surroundings : Surroundings) (name : String) (entry : Entry) :
    Option Surroundings :=
  if surroundings.ignores name entry.isDirectory then none
  else some (surroundings.enter name entry)

/-- The files of a project are found by a walk into what is not ignored, from its directory if that
is one. -/
theorem projectFiles_eq_filesFrom (root : Entry) (here : List String) :
    projectFiles root here =
      filesFrom enterRules (Surroundings.around root here) (root.at? here) := by
  rw [projectFiles]
  cases root.at? here with
  | none => rfl
  | some entry => cases entry <;> rfl

/-- The walk comes to the files that it reaches from a directory. -/
theorem mem_ruledWalk_iff :
    path ∈ ruledWalk root here ↔ ∃ entries content, root.at? here = some (.directory entries) ∧
      Reaches enterRules (Surroundings.around root here) (.directory entries) path content := by
  rw [ruledWalk, projectFiles_eq_filesFrom, List.mem_map]
  constructor
  · rintro ⟨found, mem, rfl⟩
    obtain ⟨entries, there, reaches⟩ := mem_filesFrom_iff.mp mem
    exact ⟨entries, found.content, there, reaches⟩
  · rintro ⟨entries, content, there, reaches⟩
    exact ⟨⟨path, content⟩, mem_filesFrom_iff.mpr ⟨entries, there, reaches⟩, rfl⟩

/-- A list in a directory above the one where the walk begins counts, if a repository begins there
as well. -/
example :
    let app : Entry := .directory [("Home.cs", .file .empty), ("Secret.cs", .file .empty)]
    let rules : Entry := .file "Secret.cs".toUTF8
    ruledWalk (.directory [(".git", .directory []), (".gitignore", rules), ("app", app)]) ["app"] =
        [["Home.cs"]] ∧
      ruledWalk (.directory [(".gitignore", rules), ("app", app)]) ["app"] =
        [["Home.cs"], ["Secret.cs"]] := by
  decide +kernel

/-- A file of two trees that is reached in one of them is reached in the other, if they hold the
same under the names of rules. -/
theorem reaches_of_sameUnder {known : Surroundings} (isTree : entry.IsTree)
    (same : SameUnder ruleNames entry entry') (there : entry'.at? path = some (.file content'))
    (reaches : Reaches enterRules known entry path content) :
    Reaches enterRules known entry' path content' := by
  induction reaches generalizing entry' with
  | file known content =>
    cases there
    exact .file known content'
  | @down known below name child entries rest content listed letIn further ih =>
    cases isTree with
    | directory names trees =>
      obtain ⟨child', found', lies'⟩ := Option.bind_eq_some_iff.mp there
      have found := lookup_eq_some_of_mem names listed
      have sameBelow : SameUnder ruleNames child child' :=
        same.of_at? ((at?_singleton _ name).trans found) ((at?_singleton _ name).trans found')
      have lies := further.at?_eq (trees _ listed)
      -- Both are files if nothing is left of the path, and directories otherwise.
      have kind : child.isDirectory = child'.isDirectory := by
        cases rest with
        | nil =>
          cases lies
          cases lies'
          rfl
        | cons next rest =>
          rw [isDirectory_of_at?_cons lies, isDirectory_of_at?_cons lies']
      have letIn' : enterRules known name child' = some below := by
        rw [← letIn, enterRules, enterRules, kind, Surroundings.enter, Surroundings.enter,
          ofDirectory_eq sameBelow]
      cases entry' with
      | file content => cases found'
      | directory entries' =>
        exact .down (mem_of_lookup found') letIn' (ih (trees _ listed) sameBelow lies')

/-- The walk into what is not ignored goes by the names of rules. -/
theorem goesBy_ruledWalk : Walker.GoesBy ruledWalk ruleNames where
  once root isTree here := by
    rw [ruledWalk, projectFiles_eq_filesFrom]
    exact nodup_paths_filesFrom isTree here
  alike root other isTree isTree' same here path content content' lies lies' comes := by
    obtain ⟨entries, content, there, reaches⟩ := mem_ruledWalk_iff.mp comes
    rw [at?_append] at lies'
    obtain ⟨entry', there', further'⟩ := Option.bind_eq_some_iff.mp lies'
    have sameBelow : SameUnder ruleNames (.directory entries) entry' := same.of_at? there there'
    rw [Surroundings.around_eq same there there'] at reaches
    have reaches' := reaches_of_sameUnder (isTree.of_at? there) sameBelow further' reaches
    refine mem_ruledWalk_iff.mpr ?_
    cases reaches' with
    -- The walk begins at a directory of the first tree, so no file is where it begins.
    | file => cases reaches
    | down listed letIn further => exact ⟨_, _, there', .down listed letIn further⟩

/-- In trees that are the same the walk comes to the same files, in some order. -/
theorem perm_ruledWalk (isTree : root.IsTree) (isTree' : other.IsTree)
    (same : root.SameTree other) (here : List String) :
    (ruledWalk other here).Perm (ruledWalk root here) := by
  have onlyFrom : ∀ {root other : Entry}, root.IsTree → other.IsTree → root.SameTree other →
      ∀ path ∈ ruledWalk root here, path ∈ ruledWalk other here := by
    intro root other isTree isTree' same path comes
    obtain ⟨entries, content, there, reaches⟩ := mem_ruledWalk_iff.mp comes
    have lies : root.at? (here ++ path) = some (.file content) := by
      rw [at?_append, there, Option.bind_some]
      exact reaches.at?_eq (isTree.of_at? there)
    exact goesBy_ruledWalk.alike root other isTree isTree' (same.sameUnder ruleNames) here path
      content content lies ((SameAt.at?_eq_file_iff (same _)).mpr lies) comes
  -- Neither walk comes to anything twice, so it is enough that both come to the same paths.
  refine (List.perm_ext_iff_of_nodup ?_ ?_).mpr fun path => ⟨?_, ?_⟩
  · exact goesBy_ruledWalk.once other isTree' here
  · exact goesBy_ruledWalk.once root isTree here
  · exact onlyFrom isTree' isTree same.symm path
  · exact onlyFrom isTree isTree' same path

end TypedMvc.Files
