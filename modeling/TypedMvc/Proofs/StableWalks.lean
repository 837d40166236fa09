import TypedMvc.Proofs.WalkedFiles

/-!
# Walks through a tree to which one file is added

The files that a walk finds change at one place only when an entry is set, if the walk is let into
entries by their names (`LetsInByName`): who passes over the file there sees no difference
(`filterMap_filesAt_put`). So a walk from any place of a tree that grows finds the same files as
before, but for the one that is written (`Grows.filterMap_filesFrom`). This holds for a directory
that comes into being as well, as there is nothing else in it. The visible files are found by such a
walk (`Grows.filterMap_visible`).
-/

namespace TypedMvc.Files

open Entry

/-! ## Before and after an entry is set -/

section Change

variable {σ β : Type} {enter : σ → String → Entry → Option σ} {keep : Found → Option β} {known : σ}
  {name : String} {names path above place output : List String} {root tree target after : Entry}

/-- Whether a walk is let into an entry, and what it knows then, depends on the name of the entry
only. -/
def LetsInByName (enter : σ → String → Entry → Option σ) : Prop :=
  ∀ known name entry other, enter known name entry = enter known name other

/-- Where the files of one entry count as before, so do those of the directory with it. -/
theorem filterMap_filesAmong_setEntry {entries : List (String × Entry)}
    (alike : (filesOf enter known path name target).filterMap keep =
      ((entries.lookup name).elim [] (filesOf enter known path name)).filterMap keep) :
    (filesAmong enter known path (setEntry name target entries)).filterMap keep =
      (filesAmong enter known path entries).filterMap keep := by
  induction entries with
  | nil =>
    rw [setEntry, filesAmong_cons, List.filterMap_append, alike]
    rfl
  | cons entry rest ih =>
    obtain ⟨first, entry⟩ := entry
    by_cases same : first = name
    · subst same
      rw [List.lookup_cons_self] at alike
      rw [setEntry, if_pos rfl, filesAmong_cons, filesAmong_cons, List.filterMap_append,
        List.filterMap_append, alike]
      rfl
    · rw [lookup_cons_of_ne (Ne.symm same)] at alike
      rw [setEntry, if_neg same, filesAmong_cons, filesAmong_cons, List.filterMap_append,
        List.filterMap_append, ih alike]

/-- Where the files at one place count as before, so do those of the whole tree. -/
theorem filterMap_filesAt_put (byName : LetsInByName enter) (tree : Entry)
    (alike : ∀ known, (filesOf enter known (path ++ above) name target).filterMap keep =
      ((tree.at? (above ++ [name])).elim [] (filesOf enter known (path ++ above) name)).filterMap
        keep) (known : σ) :
    (filesAt enter known path (put target (above ++ [name]) tree)).filterMap keep =
      (filesAt enter known path tree).filterMap keep := by
  induction above generalizing known path tree with
  | nil =>
    cases tree with
    | file content => rfl
    | directory entries =>
      rw [List.nil_append, put, filesAt, filesAt]
      apply filterMap_filesAmong_setEntry
      have leaf := alike known
      rw [List.append_nil, List.nil_append, at?, child?, Entry.entries] at leaf
      simpa [at?] using leaf
  | cons first above ih =>
    have further : above ++ [name] ≠ [] := List.append_ne_nil_of_right_ne_nil above (by simp)
    obtain ⟨next, rest, split⟩ := List.exists_cons_of_ne_nil further
    cases tree with
    | file content => simp [put, split]
    | directory entries =>
      rw [List.cons_append, split, put, ← split]
      cases child : entries.lookup first with
      | none => rfl
      | some entry =>
        rw [filesAt, filesAt]
        apply filterMap_filesAmong_setEntry
        rw [child, Option.elim, filesOf, filesOf]
        -- The walk is let into this entry as before, and what it finds there is by induction.
        rw [byName known first _ entry]
        cases enter known first entry with
        | none => rfl
        | some below =>
          refine ih entry (fun known => ?_) below
          have leaf := alike known
          rw [List.cons_append, at?, child?, Entry.entries, child] at leaf
          simpa using leaf

/-- A file counts as nothing where it is passed over. -/
theorem filterMap_filesOf_file {content : ByteArray}
    (passes : keep ⟨path ++ [name], content⟩ = none) :
    (filesOf enter known path name (.file content)).filterMap keep = [] := by
  rw [filesOf]
  cases enter known name (.file content) with
  | none => rfl
  | some below => simp [filesAt, passes]

/-- The output counts the same before and after it is set: it is passed over under its path, or it
is in the tree already and its bytes do not count. -/
def CountsAlike (keep : Found → Option β) (tree : Entry) (output path : List String) : Prop :=
  (∀ content, keep ⟨path, content⟩ = none) ∨
    (∃ entry, tree.at? output = some entry) ∧
      ∀ content other, keep ⟨path, content⟩ = keep ⟨path, other⟩

/-- An entry that may be set at a place counts as what is there, if the output does. -/
theorem filterMap_filesOf_fits (byName : LetsInByName enter)
    (fits : Fits output tree place target)
    (alike : place = output → CountsAlike keep tree output (path ++ [name])) :
    (filesOf enter known path name target).filterMap keep =
      ((tree.at? place).elim [] (filesOf enter known path name)).filterMap keep := by
  cases fits with
  | directory free =>
    rw [free, filesOf]
    split <;> rfl
  | file content isOutput noDirectory =>
    have fits : Fits output tree place (.file content) := .file content isOutput noDirectory
    rcases alike isOutput with passes | ⟨⟨entry, there⟩, same⟩
    · rw [filterMap_filesOf_file (passes content)]
      cases there : tree.at? place with
      | none => rfl
      | some entry =>
        cases entry with
        | directory entries => exact absurd ⟨entries, there⟩ noDirectory
        | file old => exact (filterMap_filesOf_file (passes old)).symm
    · rw [← isOutput] at there
      cases entry with
      | directory entries => exact absurd ⟨entries, there⟩ noDirectory
      | file old =>
        rw [there, Option.elim, filesOf, filesOf, byName known name _ (.file old)]
        cases enter known name (.file old) with
        | none => rfl
        | some below => simp only [filesAt, List.filterMap_cons, same content old]

/-- A walk finds nothing from an entry that may be set. -/
theorem filesFrom_fits (fits : Fits output tree place target) (rest : List String) :
    filesFrom enter known (target.at? rest) = [] := by
  cases fits <;> cases rest <;> rfl

/-- One step changes nothing about the files that a walk finds by names, if the output counts the
same. -/
theorem Step.filterMap_filesFrom (step : Step names output tree after)
    (byName : LetsInByName enter)
    (alike : ∀ rest, rest ≠ [] → place ++ rest = output → CountsAlike keep tree output rest) :
    (filesFrom enter known (after.at? place)).filterMap keep =
      (filesFrom enter known (tree.at? place)).filterMap keep := by
  obtain @⟨above, name, target, room, -, fits⟩ := step
  -- The entry is set below the place, at it or above it, or apart from it.
  by_cases inside : place <+: above
  · obtain ⟨rest, rfl⟩ := inside
    obtain ⟨entries, there⟩ := room.of_append
    rw [List.append_assoc] at fits ⊢
    have further : rest ++ [name] ≠ [] := List.append_ne_nil_of_right_ne_nil rest (by simp)
    obtain ⟨entries', set⟩ :
        ∃ entries', put target (rest ++ [name]) (.directory entries) = .directory entries' :=
      exists_put_directory further
    rw [at?_put_above tree place further, there, Option.map_some, set, filesFrom, filesFrom,
      ← filesAt, ← filesAt, ← set]
    refine filterMap_filesAt_put byName _ (fun known => ?_) _
    have old : (Entry.directory entries).at? (rest ++ [name]) =
        tree.at? (place ++ (rest ++ [name])) := by
      rw [at?_append tree, there, Option.bind_some]
    rw [old]
    exact filterMap_filesOf_fits byName fits fun isOutput => alike _ further isOutput
  · by_cases below : above ++ [name] <+: place
    · obtain ⟨rest, rfl⟩ := below
      have noDirectory : ¬ tree.HasDirectory (above ++ [name] ++ rest) := fun there =>
        fits.noDirectory there.of_append
      rw [at?_append, at?_put_self room, Option.bind_some, filesFrom_fits fits,
        filesFrom_of_not_hasDirectory noDirectory]
    · have notAbove : ¬ place <+: above ++ [name] := fun onTheWay =>
        (List.prefix_concat_iff.mp onTheWay).elim
          (fun same => below (same ▸ List.prefix_rfl)) inside
      rw [at?_put_apart below notAbove]

/-- In a tree that grows a walk by names finds the same files from a place as before, if the output
counts the same. -/
theorem Grows.filterMap_filesFrom (grows : Grows names output root tree)
    (byName : LetsInByName enter)
    (alike : ∀ rest, rest ≠ [] → place ++ rest = output → CountsAlike keep root output rest) :
    (filesFrom enter known (tree.at? place)).filterMap keep =
      (filesFrom enter known (root.at? place)).filterMap keep := by
  induction grows with
  | refl => rfl
  | tail earlier step ih =>
    rw [← ih]
    refine step.filterMap_filesFrom byName fun rest further isOutput => ?_
    -- An old file is there after the earlier steps too.
    refine (alike rest further isOutput).imp_right fun ⟨⟨entry, there⟩, same⟩ => ⟨?_, same⟩
    obtain ⟨entry', there', -⟩ := Grows.keepsKinds earlier output entry there
    exact ⟨entry', there'⟩

end Change

/-! ## Visible files -/

section Visible

variable {β : Type} {keep : Found → Option β} {names output place : List String} {root tree : Entry}

/-- In a tree that grows the same visible files are found from a place as before, if the output
counts the same where it is visible. -/
theorem Grows.filterMap_visible (grows : Grows names output root tree)
    (alike : ∀ rest, rest ≠ [] → place ++ rest = output →
      (∀ name ∈ rest, isHidden name = false) → CountsAlike keep root output rest) :
    (visibleFrom (tree.at? place)).filterMap keep =
      (visibleFrom (root.at? place)).filterMap keep := by
  -- Passing over what is hidden is part of the walk, so it may be added to `keep`.
  let keepVisible (found : Found) : Option β :=
    if ∀ name ∈ found.path, isHidden name = false then keep found else none
  have same (tree : Entry) :
      (visibleFrom (tree.at? place)).filterMap keep =
        (visibleFrom (tree.at? place)).filterMap keepVisible :=
    List.filterMap_congr fun found mem => (if_pos (isHidden_of_mem_visible mem)).symm
  have byName : LetsInByName enterVisible := fun _ _ _ _ => rfl
  rw [same, same]
  refine grows.filterMap_filesFrom byName fun rest further isOutput => ?_
  by_cases visible : ∀ name ∈ rest, isHidden name = false
  · have kept (content : ByteArray) : keepVisible ⟨rest, content⟩ = keep ⟨rest, content⟩ :=
      if_pos visible
    simp only [CountsAlike, kept]
    exact alike rest further isOutput visible
  · exact Or.inl fun content => if_neg visible

end Visible

end TypedMvc.Files
