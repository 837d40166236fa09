import TypedMvc.Proofs.FoundFiles
import TypedMvc.Proofs.SortedFiles

/-!
# Which files are views

A file below the folder of the views is a view exactly if it lies in a controller's folder, nothing
on the way to it is hidden, and it has one of the extensions (`IsViewFile`). The view has the name
of the controller's folder, however deep the file lies, the name of the file without its extension,
and the path of the file from the project's directory (`IsViewOf`). `find_exact` says that the views
are those of these files, one for each, in increasing order of their paths.

Two facts carry this. The paths of two files from the directory are the same only if the files are
(`eq_of_join_stepsOf_eq`), so no view stands for two files and none comes twice. And such a path
leads to its file (`entry?_join_stepsOf`), also where the folder is spelled with dots. The path of
the directory itself is not empty, as the empty path names nothing.
-/

namespace TypedMvc.Project.ViewLocator

open Files Model

/-- The names on the way from a directory along a relative path: all pieces of the path that do not
stay where they are. -/
def stepsOf (folder : String) : List String :=
  (Text.pieces '/' folder).filter fun piece => piece ≠ "" ∧ piece ≠ "."

/-- The names on the way from the folder lead to a file that is a view. -/
structure IsViewFile (disk : Disk) (directory folder : String) (extensions path : List String) :
    Prop where
  /-- They lead to a file. -/
  file : ∃ content, ((disk.entry? (Path.join directory folder)).bind fun entry => entry.at? path) =
    some (.file content)
  /-- The file lies in a directory below the folder. -/
  inside : 2 ≤ path.length
  /-- Nothing on the way is hidden. -/
  visible : ∀ name ∈ path, isHidden name = false
  /-- The extension is one of those in lower case, but for the case of ASCII letters. -/
  extension : ∃ stem own, HasExtension (path.getLastD "") stem own ∧
    ∃ extension ∈ extensions, Naming.eqIgnoreAsciiCase (Unicode.lower extension) own = true

/-- A view is that of a file. -/
structure IsViewOf (disk : Disk) (directory folder : String) (path : List String) (view : View) :
    Prop where
  /-- It belongs to the first directory below the folder. -/
  controller : path.head? = some view.controllerName
  /-- It is called like the file, without its extension. -/
  name : ∃ own, HasExtension (path.getLastD "") view.viewName own
  /-- Its path goes from the project's directory to the folder and on to the file. -/
  relativePath : view.relativePath = Text.join "/" (stepsOf folder ++ path)
  /-- The path leads to the file. -/
  leads : disk.entry? (Path.join directory view.relativePath) =
    (disk.entry? (Path.join directory folder)).bind fun entry => entry.at? path

variable {disk : Disk} {directory folder : String} {extensions path : List String}
  {found : Found} {view : View}

/-! ## Extensions -/

/-- A name has the extension of a view exactly if one of the extensions in lower case is its own,
but for the case of ASCII letters. -/
theorem hasViewExtension_iff {name : String} :
    (ofFolder folder extensions).hasViewExtension name = true ↔
      ∃ stem own, HasExtension name stem own ∧ ∃ extension ∈ extensions,
        Naming.eqIgnoreAsciiCase (Unicode.lower extension) own = true := by
  rw [hasViewExtension, Option.any_eq_true]
  constructor
  · rintro ⟨own, has, matched⟩
    obtain ⟨_, lowered, same⟩ := List.any_eq_true.mp matched
    obtain ⟨extension, listed, rfl⟩ := List.mem_map.mp lowered
    exact ⟨_, own, extension?_eq_some_iff.mp has, extension, listed, same⟩
  · rintro ⟨stem, own, has, extension, listed, same⟩
    refine ⟨own, has.extension?_eq, List.any_eq_true.mpr ⟨_, ?_, same⟩⟩
    exact List.mem_map_of_mem listed

/-- A file that was found is a view exactly if it lies in a directory and has the extension of a
view. -/
theorem viewOf?_eq_some_iff {locator : ViewLocator} :
    locator.viewOf? directory found = some view ↔
      2 ≤ found.path.length ∧ locator.hasViewExtension found.name = true ∧
        found.path.head? = some view.controllerName ∧ view.viewName = Path.stem found.name ∧
          view.relativePath = pathFrom directory
            (Path.join (Path.join directory locator.folder) found.relativePath) := by
  obtain ⟨controllerName, viewName, relativePath⟩ := view
  rw [viewOf?]
  split
  · rename_i controller next rest names
    have length : 2 ≤ found.path.length := by simp [names]
    have first : found.path.head? = some controller := by rw [names, List.head?_cons]
    rw [first]
    constructor
    · intro made
      split at made
      · rename_i has
        cases made
        exact ⟨length, has, rfl, rfl, rfl⟩
      · cases made
    · rintro ⟨-, has, ⟨⟩, rfl, rfl⟩
      rw [if_pos has]
  · rename_i short
    -- With fewer than two names on its path a file is no view.
    refine iff_of_false (fun made => by cases made) ?_
    rintro ⟨inside, -⟩
    obtain ⟨controller, rest, names⟩ : ∃ controller rest, found.path = controller :: rest :=
      List.exists_cons_of_length_pos (Nat.lt_of_lt_of_le Nat.zero_lt_two inside)
    rw [names, List.length_cons] at inside
    obtain ⟨next, further, tail⟩ : ∃ next further, rest = next :: further :=
      List.exists_cons_of_length_pos (Nat.le_of_succ_le_succ inside)
    exact short controller next further (names.trans (congrArg _ tail))

/-! ## Paths from the project's directory -/

/-- The steps of a relative path are written like its pieces. -/
theorem map_text_filterMap_componentOf? (pieces : List String) :
    (pieces.filterMap Path.componentOf?).map Component.text =
      pieces.filter fun piece => piece ≠ "" ∧ piece ≠ "." := by
  induction pieces with
  | nil => rfl
  | cons piece rest ih =>
    by_cases stays : piece = "" ∨ piece = "."
    · have noStep : Path.componentOf? piece = none := if_pos stays
      have left_out : ¬ (piece ≠ "" ∧ piece ≠ ".") := by
        rw [not_and_or, not_not, not_not]
        exact stays
      rw [List.filterMap_cons_none noStep, ih, List.filter_cons_of_neg (by simpa using left_out)]
    · have kept : piece ≠ "" ∧ piece ≠ "." := not_or.mp stays
      have step : ∃ step, Path.componentOf? piece = some step ∧ step.text = piece := by
        rw [Path.componentOf?, if_neg stays]
        by_cases up : piece = ".."
        · exact ⟨.up, by rw [if_pos up], up.symm⟩
        · exact ⟨.entry piece, by rw [if_neg up], rfl⟩
      obtain ⟨step, isStep, text⟩ := step
      rw [List.filterMap_cons_some isStep, List.map_cons, text, ih,
        List.filter_cons_of_pos (by simpa using kept)]

/-- The path of a file below the folder from the project's directory. -/
theorem pathFrom_join (nonempty : directory ≠ "") (relative : Path.isAbsolute folder = false)
    (further : path ≠ []) (fileNames : ∀ name ∈ path, IsFileName name) :
    pathFrom directory (Path.join (Path.join directory folder) (Text.join "/" path)) =
      Text.join "/" (stepsOf folder ++ path) := by
  have steps : Path.components (Path.join (Path.join directory folder) (Text.join "/" path)) =
      Path.components directory ++ ((Text.pieces '/' folder).filterMap Path.componentOf? ++
        path.map Component.entry) := by
    rw [Path.components_join_names _ further fileNames, Path.components_join nonempty relative,
      List.append_assoc]
  have begins : (Path.components directory).isPrefixOf (Path.components directory ++
      ((Text.pieces '/' folder).filterMap Path.componentOf? ++ path.map Component.entry)) = true :=
    List.isPrefixOf_iff_prefix.mpr (List.prefix_append _ _)
  have texts : (path.map Component.entry).map Component.text = path := by
    rw [List.map_map]
    exact List.map_id path
  rw [pathFrom, steps, if_pos begins, List.drop_left, List.map_append, texts,
    map_text_filterMap_componentOf?, stepsOf]

/-- The pieces of the path from the project's directory to a file below the folder. -/
theorem pieces_join_stepsOf (folder : String) (further : path ≠ [])
    (fileNames : ∀ name ∈ path, IsFileName name) :
    Text.pieces '/' (Text.join "/" (stepsOf folder ++ path)) = stepsOf folder ++ path := by
  refine Text.pieces_join (by simp [further]) fun part mem => ?_
  rcases List.mem_append.mp mem with step | name
  · exact Text.slash_not_mem_of_mem_pieces (List.mem_filter.mp step).1
  · exact (fileNames part name).whole

/-- Files below the folder have different paths from the project's directory. -/
theorem eq_of_join_stepsOf_eq {other : List String} (further : path ≠ []) (further' : other ≠ [])
    (fileNames : ∀ name ∈ path, IsFileName name) (fileNames' : ∀ name ∈ other, IsFileName name)
    (same : Text.join "/" (stepsOf folder ++ path) = Text.join "/" (stepsOf folder ++ other)) :
    path = other := by
  have pieces := congrArg (Text.pieces '/') same
  rw [pieces_join_stepsOf folder further fileNames,
    pieces_join_stepsOf folder further' fileNames'] at pieces
  exact List.append_cancel_left pieces

/-- The path from the project's directory leads to the file. -/
theorem entry?_join_stepsOf {entry : Entry} (nonempty : directory ≠ "")
    (relative : Path.isAbsolute folder = false) (further : path ≠ [])
    (fileNames : ∀ name ∈ path, IsFileName name)
    (leads : ((disk.entry? (Path.join directory folder)).bind fun entry => entry.at? path) =
      some entry) :
    disk.entry? (Path.join directory (Text.join "/" (stepsOf folder ++ path))) = some entry := by
  obtain ⟨above, there, below⟩ := Option.bind_eq_some_iff.mp leads
  obtain ⟨place, located, isFolder⟩ := Option.bind_eq_some_iff.mp there
  have found : disk.root.at? (place ++ path) = some entry := by
    rw [Entry.at?_append, isFolder, Option.bind_some, below]
  obtain ⟨here, project⟩ := Disk.exists_locate?_of_join nonempty relative located
  -- The steps of the folder lead to it, and the names from there to the file.
  have toFolder : (stepsOf folder).foldlM (Disk.follow? disk.root) here = some place := by
    rw [Disk.locate?_join project, Disk.startBelow, relative, if_neg (by decide)] at located
    exact follow_filter located
  have onwards := follow_names fileNames found
  have cut := pieces_join_stepsOf folder further fileNames
  obtain ⟨first, rest, split⟩ := List.exists_cons_of_ne_nil
    (List.append_ne_nil_of_right_ne_nil (stepsOf folder) further)
  have filled : first ≠ "" := by
    have mem : first ∈ stepsOf folder ++ path := split ▸ List.mem_cons_self
    rcases List.mem_append.mp mem with step | name
    · have moves := (List.mem_filter.mp step).2
      rw [decide_eq_true_iff] at moves
      exact moves.1
    · exact (fileNames first name).nonempty
  have isRelative := Path.isAbsolute_eq_false filled (cut.trans split)
  rw [Disk.entry?, Disk.locate?_join project, Disk.startBelow, isRelative, if_neg (by decide), cut,
    List.foldlM_append, toFolder]
  change (path.foldlM (Disk.follow? disk.root) place).bind disk.root.at? = some entry
  rw [onwards, Option.bind_some, found]

/-! ## The views -/

/-- The names on the way to a file are names of files. -/
theorem IsViewFile.fileNames (isView : IsViewFile disk directory folder extensions path)
    (names : disk.root.HasFileNames) : ∀ name ∈ path, IsFileName name := by
  obtain ⟨content, leads⟩ := isView.file
  obtain ⟨above, there, below⟩ := Option.bind_eq_some_iff.mp leads
  obtain ⟨place, -, isFolder⟩ := Option.bind_eq_some_iff.mp there
  have found : disk.root.at? (place ++ path) = some (.file content) := by
    rw [Entry.at?_append, isFolder, Option.bind_some, below]
  exact fun name mem => names.of_at? found name (List.mem_append_right place mem)

/-- There is a name on the way to a file. -/
theorem IsViewFile.ne_nil (isView : IsViewFile disk directory folder extensions path) :
    path ≠ [] :=
  List.ne_nil_of_length_pos (Nat.lt_of_lt_of_le Nat.zero_lt_two isView.inside)

/-- The view of a file is what is made of it. -/
theorem isViewOf_iff (names : disk.root.HasFileNames) (nonempty : directory ≠ "")
    (relative : Path.isAbsolute folder = false)
    (isView : IsViewFile disk directory folder extensions path) :
    IsViewOf disk directory folder path view ↔
      path.head? = some view.controllerName ∧ view.viewName = Path.stem (path.getLastD "") ∧
        view.relativePath = Text.join "/" (stepsOf folder ++ path) := by
  obtain ⟨stem, own, has, -⟩ := isView.extension
  constructor
  · rintro ⟨controller, ⟨own', has'⟩, relativePath, -⟩
    exact ⟨controller, has'.stem_eq.symm, relativePath⟩
  · rintro ⟨controller, name, relativePath⟩
    refine ⟨controller, ⟨own, ?_⟩, relativePath, ?_⟩
    · rw [name, has.stem_eq]
      exact has
    · obtain ⟨content, leads⟩ := isView.file
      rw [relativePath, leads]
      exact entry?_join_stepsOf nonempty relative isView.ne_nil (isView.fileNames names) leads

/-- The views are those of the files that are views. -/
theorem mem_find_iff (tree : disk.root.IsTree) (names : disk.root.HasFileNames)
    (nonempty : directory ≠ "") (relative : Path.isAbsolute folder = false) :
    view ∈ (ofFolder folder extensions).find disk directory ↔
      ∃ path, IsViewFile disk directory folder extensions path ∧
        IsViewOf disk directory folder path view := by
  rw [find_eq, List.mem_mergeSort, List.mem_filterMap]
  constructor
  · rintro ⟨found, mem, made⟩
    obtain ⟨further, leads, visible⟩ := (Disk.mem_visibleFrom_iff tree).mp mem
    obtain ⟨inside, has, controller, name, relativePath⟩ := viewOf?_eq_some_iff.mp made
    have isView : IsViewFile disk directory folder extensions found.path :=
      ⟨⟨_, leads⟩, inside, visible, hasViewExtension_iff.mp has⟩
    refine ⟨found.path, isView, (isViewOf_iff names nonempty relative isView).mpr ?_⟩
    rw [Found.relativePath] at relativePath
    refine ⟨controller, name, relativePath.trans ?_⟩
    exact pathFrom_join nonempty relative further (isView.fileNames names)
  · rintro ⟨path, isView, isViewOf⟩
    obtain ⟨controller, name, relativePath⟩ :=
      (isViewOf_iff names nonempty relative isView).mp isViewOf
    obtain ⟨content, leads⟩ := isView.file
    refine ⟨⟨path, content⟩, ?_, viewOf?_eq_some_iff.mpr ⟨isView.inside, ?_, controller, name, ?_⟩⟩
    · exact (Disk.mem_visibleFrom_iff tree).mpr ⟨isView.ne_nil, leads, isView.visible⟩
    · exact hasViewExtension_iff.mpr isView.extension
    · rw [relativePath]
      exact (pathFrom_join nonempty relative isView.ne_nil (isView.fileNames names)).symm

/-- The paths of the views increase from each to the next. -/
theorem pairwise_find (tree : disk.root.IsTree) (names : disk.root.HasFileNames)
    (locator : ViewLocator) :
    (locator.find disk directory).Pairwise fun view later =>
      view.relativePath < later.relativePath := by
  let files := visibleFrom (disk.entry? (Path.join directory locator.folder))
  have paths : files.Pairwise fun found other => found.path ≠ other.path :=
    List.pairwise_map.mp (Disk.nodup_paths tree (Path.join directory locator.folder))
  -- Different files have different paths from the folder, and with them from the directory.
  have apart : ((files.filterMap (locator.viewOf? directory)).map View.relativePath).Nodup := by
    refine List.pairwise_map.mpr (List.pairwise_filterMap.mpr ?_)
    refine paths.imp_of_mem ?_
    intro found other mem mem' differ view made view' made' same
    obtain ⟨further, fileNames⟩ := Disk.isFileName_of_mem tree names mem
    obtain ⟨further', fileNames'⟩ := Disk.isFileName_of_mem tree names mem'
    rw [(viewOf?_eq_some made).2, (viewOf?_eq_some made').2] at same
    exact differ (eq_of_pathFrom_eq further further' fileNames fileNames' same)
  rw [find_eq]
  refine (pairwise_mergeSort_of_nodup sorts_text View.relativePath apart).imp ?_
  rintro view later ⟨front, differ⟩
  rw [decide_eq_true_iff] at front
  by_contra notLess
  exact differ (String.le_antisymm front (String.not_lt.mp notLess))

/-- The views are those of the files in the controllers' folders that have one of the extensions,
one for each, in increasing order of their paths; and there are none where the folder is missing. -/
theorem find_exact (tree : disk.root.IsTree) (names : disk.root.HasFileNames)
    (nonempty : directory ≠ "") (relative : Path.isAbsolute folder = false)
    (extensions : List String) :
    let views := (ofFolder folder extensions).find disk directory
    (∀ path, IsViewFile disk directory folder extensions path →
      ∃! view, view ∈ views ∧ IsViewOf disk directory folder path view) ∧
    (∀ view ∈ views, ∃! path, IsViewFile disk directory folder extensions path ∧
      IsViewOf disk directory folder path view) ∧
    (views.Pairwise fun view later => view.relativePath < later.relativePath) ∧
    (disk.entry? (Path.join directory folder) = none → views = []) := by
  intro views
  have listed (view : View) : view ∈ views ↔ ∃ path,
      IsViewFile disk directory folder extensions path ∧
        IsViewOf disk directory folder path view :=
    mem_find_iff tree names nonempty relative
  refine ⟨fun path isView => ?_, fun view mem => ?_, ?_, fun missing => ?_⟩
  · obtain ⟨controller, head⟩ : ∃ controller, path.head? = some controller :=
      Option.isSome_iff_exists.mp (List.isSome_head?.mpr isView.ne_nil)
    let made : View :=
      ⟨controller, Path.stem (path.getLastD ""), Text.join "/" (stepsOf folder ++ path)⟩
    have isViewOf : IsViewOf disk directory folder path made :=
      (isViewOf_iff names nonempty relative isView).mpr ⟨head, rfl, rfl⟩
    refine ⟨made, ⟨(listed made).mpr ⟨path, isView, isViewOf⟩, isViewOf⟩, ?_⟩
    -- All three parts of a view can be told from the file.
    rintro view ⟨-, isViewOf'⟩
    obtain ⟨head', name, relativePath⟩ :=
      (isViewOf_iff names nonempty relative isView).mp isViewOf'
    rw [head] at head'
    obtain ⟨_, _, _⟩ := view
    cases head'
    rw [View.mk.injEq]
    exact ⟨rfl, name, relativePath⟩
  · obtain ⟨path, isView, isViewOf⟩ := (listed view).mp mem
    refine ⟨path, ⟨isView, isViewOf⟩, ?_⟩
    rintro other ⟨isView', isViewOf'⟩
    -- The path of the view tells which file it is of.
    have same := isViewOf'.relativePath.symm.trans isViewOf.relativePath
    exact eq_of_join_stepsOf_eq isView'.ne_nil isView.ne_nil (isView'.fileNames names)
      (isView.fileNames names) same
  · exact pairwise_find tree names (ofFolder folder extensions)
  · have noViews : ∀ view, view ∉ views := by
      intro view mem
      obtain ⟨path, isView, -⟩ := (listed view).mp mem
      obtain ⟨content, leads⟩ := isView.file
      rw [missing] at leads
      cases leads
    exact List.eq_nil_iff_forall_not_mem.mpr noViews

/-- Among a view deep below a folder written with dots, a file of the views' folder itself, a hidden
one and one with another extension, only the first is reported. -/
theorem find_exact_among_skipped_files :
    let file : Entry := .file "".toUTF8
    let partials : Entry := .directory [("_Row.Small.CSHTML", file), ("Notes.md", file)]
    let views : Entry := .directory [("_ViewStart.cshtml", file), ("Home", .directory
      [("Partials", partials), (".Old.cshtml", file)]), (".git", .directory [("A.cshtml", file)])]
    let disk : Disk := ⟨.directory [("app", .directory [("Views", views)])], []⟩
    let found := (ofFolder "./Views/" ["cshtml"]).find disk "/app"
    (∀ path, IsViewFile disk "/app" "./Views/" ["cshtml"] path →
      ∃! view, view ∈ found ∧ IsViewOf disk "/app" "./Views/" path view) ∧
    (∀ view ∈ found, ∃! path, IsViewFile disk "/app" "./Views/" ["cshtml"] path ∧
      IsViewOf disk "/app" "./Views/" path view) ∧
    found = [⟨"Home", "_Row.Small", "Views/Home/Partials/_Row.Small.CSHTML"⟩] := by
  intro file partials views disk found
  obtain ⟨tree, names⟩ := disk.root.isTree_of_isWellNamed (by decide)
  obtain ⟨ofFiles, ofViews, -⟩ := find_exact tree names (by decide : "/app" ≠ "")
    (by decide : Path.isAbsolute "./Views/" = false) ["cshtml"]
  exact ⟨ofFiles, ofViews, by decide +kernel⟩

end TypedMvc.Project.ViewLocator
