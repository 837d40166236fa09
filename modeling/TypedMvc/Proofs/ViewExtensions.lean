import TypedMvc.Proofs.ControllerViews
import TypedMvc.Proofs.LoweredText
import TypedMvc.Settings.Load

/-!
# Whether a configured extension finds its own files

The extensions of the configuration are lower-cased with all of Unicode, but compared with those of
files by the case of ASCII letters only. A file whose extension is spelled just like one in the
configuration (`IsSpelled`) is a view exactly if both notions of case agree on the extension
(`find_spelled_iff`): its lower-case form has to be the one that it has in ASCII. Others in the
configuration make no difference: one that matches the extension has the same lower-case form
(`eqIgnoreAsciiCase_lower_of_normalized`).
-/

namespace TypedMvc.Settings

open Unicode

variable {valueOf? : Toml.DocumentReader} {config : Config} {directory extension : String}
  {disk : Files.Disk} {overrides : Overrides}

/-- The configuration of the project in a directory lists an extension, spelled like this, as the
reader of documents reads it. -/
def ListsExtension (valueOf? : Toml.DocumentReader) (disk : Files.Disk)
    (directory extension : String) : Prop :=
  ∃ document written, readDocument disk directory = .ok document ∧
    Config.ofDocument? document valueOf? = some written ∧
      extension ∈ written.locators.viewExtensions

/-- Bringing an extension into the form in which it is compared lower-cases it. -/
theorem lower_normalizeExtension (extension : String) :
    lower (normalizeExtension extension) = normalizeExtension extension :=
  lower_lower _

/-- An extension without dots is lower-cased only. -/
theorem normalizeExtension_of_no_dot (noDot : '.' ∉ extension.toList) :
    normalizeExtension extension = lower extension := by
  have kept : extension.toList.dropWhile (· == '.') = extension.toList := by
    cases chars : extension.toList with
    | nil => rfl
    | cons first rest =>
      have other : first ≠ '.' := by
        rintro rfl
        exact noDot (chars ▸ List.mem_cons_self)
      rw [List.dropWhile_cons_of_neg (by simpa using other)]
  rw [normalizeExtension, kept, String.ofList_toList]

/-- Lower-casing leaves something of a text that is not empty. -/
theorem lower_ne_empty (nonempty : extension ≠ "") : lower extension ≠ "" := by
  intro empty
  have grows := length_le_length_lowerFrom [] extension.toList
  have chars : lowerFrom [] extension.toList = [] := by
    rw [← String.toList_ofList (l := lowerFrom [] extension.toList)]
    exact String.toList_eq_nil_iff.mpr empty
  rw [chars, List.length_nil, Nat.le_zero, List.length_eq_zero_iff] at grows
  exact nonempty (String.toList_eq_nil_iff.mp grows)

/-- The extensions that are compared are those listed, each in the form for that. -/
theorem mem_normalizeExtensions {extensions : List String} :
    extension ∈ normalizeExtensions extensions ↔
      extension ≠ "" ∧ ∃ listed ∈ extensions, normalizeExtension listed = extension := by
  rw [normalizeExtensions, List.mem_filter, List.mem_map, decide_eq_true_iff, and_comm]

/-- An extension that another one in the form for comparing matches also matches its own lower-case
form. -/
theorem eqIgnoreAsciiCase_lower_of_normalized {listed : String}
    (matched : Naming.eqIgnoreAsciiCase (lower (normalizeExtension listed)) extension = true) :
    Naming.eqIgnoreAsciiCase (lower extension) extension = true := by
  rw [lower_normalizeExtension] at matched
  -- What matches has one lower-case form, and the listed extension is its own already.
  have same : normalizeExtension listed = lower extension :=
    (lower_normalizeExtension listed).symm.trans (Naming.lower_eq_of_eqIgnoreAsciiCase matched)
  rwa [same] at matched

/-- A loaded configuration looks for views as its document says, with the extensions in the form in
which they are compared. -/
theorem locators_of_loadFrom
    (loaded : Config.loadFrom disk directory overrides valueOf? = .ok config) :
    ∃ document written, readDocument disk directory = .ok document ∧
      Config.ofDocument? document valueOf? = some written ∧
        config.locators = written.normalize.locators := by
  rw [Config.loadFrom] at loaded
  cases read : readDocument disk directory with
  | error fault =>
    rw [read] at loaded
    cases loaded
  | ok document =>
    rw [read] at loaded
    change Config.load document overrides valueOf? = .ok config at loaded
    rw [Config.load] at loaded
    cases held : Config.ofDocument? document valueOf? with
    | none =>
      rw [held] at loaded
      cases loaded
    | some written =>
      rw [held] at loaded
      refine ⟨document, written, rfl, held, ?_⟩
      dsimp only at loaded
      split at loaded
      · cases loaded
      · cases loaded
        rfl

/-- After loading, the extensions hold the lower-case form of each listed one without dots. -/
theorem lower_mem_viewExtensions
    (loaded : Config.loadFrom disk directory overrides valueOf? = .ok config)
    (lists : ListsExtension valueOf? disk directory extension) (nonempty : extension ≠ "")
    (noDot : '.' ∉ extension.toList) : lower extension ∈ config.locators.viewExtensions := by
  obtain ⟨document, written, read, held, locators⟩ := locators_of_loadFrom loaded
  obtain ⟨document', written', read', held', listed⟩ := lists
  obtain rfl : document = document' := Except.ok.inj (read.symm.trans read')
  obtain rfl : written = written' := Option.some.inj (held.symm.trans held')
  rw [locators]
  exact mem_normalizeExtensions.mpr
    ⟨lower_ne_empty nonempty, extension, listed, normalizeExtension_of_no_dot noDot⟩

/-- After loading, each extension is a listed one in the form in which they are compared. -/
theorem exists_normalizeExtension_eq {normalized : String}
    (loaded : Config.loadFrom disk directory overrides valueOf? = .ok config)
    (mem : normalized ∈ config.locators.viewExtensions) :
    ∃ listed, normalizeExtension listed = normalized := by
  obtain ⟨-, written, -, -, locators⟩ := locators_of_loadFrom loaded
  rw [locators] at mem
  obtain ⟨-, listed, -, same⟩ := mem_normalizeExtensions.mp mem
  exact ⟨listed, same⟩

end TypedMvc.Settings

namespace TypedMvc.Project.ViewLocator

open Files Model Settings

/-- The names on the way from the folder of the views lead to a visible file in the folder of a
controller, or deeper below it, with a name and an extension spelled like this. -/
structure IsSpelled (disk : Disk) (directory folder controller : String) (path : List String)
    (name extension : String) : Prop where
  /-- They lead to a file. -/
  file : ∃ content, ((disk.entry? (Path.join directory folder)).bind fun entry => entry.at? path) =
    some (.file content)
  /-- The first is that of the controller's folder, and the last ends with the extension. -/
  names : ∃ between, path = controller :: between ++ [name ++ "." ++ extension]
  /-- Nothing on the way is hidden. -/
  visible : ∀ name ∈ path, isHidden name = false

variable {valueOf? : Toml.DocumentReader} {disk : Disk}
  {directory folder controller name extension : String} {path : List String}
  {overrides : Overrides} {config : Config}

/-- The file has the extension: a name of which only this is left would be hidden. -/
theorem IsSpelled.hasExtension
    (spelled : IsSpelled disk directory folder controller path name extension)
    (noDot : '.' ∉ extension.toList) : HasExtension (path.getLastD "") name extension := by
  obtain ⟨between, rfl⟩ := spelled.names
  have last : (controller :: between ++ [name ++ "." ++ extension]).getLastD "" =
      name ++ "." ++ extension := by
    rw [List.getLastD_eq_getLast?, List.getLast?_concat, Option.getD_some]
  rw [last]
  refine ⟨rfl, noDot, ?_⟩
  rintro rfl
  have visible := spelled.visible ("" ++ "." ++ extension)
    (List.mem_append_right _ (List.mem_singleton.mpr rfl))
  have hidden : isHidden ("" ++ "." ++ extension) = true := by simp [isHidden]
  rw [hidden] at visible
  cases visible

/-- The view of a file is reported exactly if the file has the extension of a view. -/
theorem mem_find_spelled_iff (locator : ViewLocator) (tree : disk.root.IsTree)
    (names : disk.root.HasFileNames) (noDot : '.' ∉ extension.toList)
    (spelled : IsSpelled disk directory locator.folder controller path name extension) :
    (⟨controller, name, pathFrom directory (Path.join (Path.join directory locator.folder)
      (Text.join "/" path))⟩ : View) ∈ locator.find disk directory ↔
        locator.hasViewExtension (path.getLastD "") = true := by
  have has := spelled.hasExtension noDot
  obtain ⟨content, leads⟩ := spelled.file
  obtain ⟨between, path_eq⟩ := spelled.names
  have further : path ≠ [] := by simp [path_eq]
  have inside : 2 ≤ path.length := by simp [path_eq]
  have head : path.head? = some controller := by rw [path_eq]; rfl
  have mem : (⟨path, content⟩ : Found) ∈
      visibleFrom (disk.entry? (Path.join directory locator.folder)) :=
    (Disk.mem_visibleFrom_iff tree).mpr ⟨further, leads, spelled.visible⟩
  have fileNames := (Disk.isFileName_of_mem tree names mem).2
  rw [find_eq, List.mem_mergeSort, List.mem_filterMap]
  constructor
  · rintro ⟨found, mem', made⟩
    obtain ⟨-, hasView, -, -, relativePath⟩ := viewOf?_eq_some_iff.mp made
    obtain ⟨further', fileNames'⟩ := Disk.isFileName_of_mem tree names mem'
    -- The view tells by its path which file it was made of.
    have same : path = found.path :=
      eq_of_pathFrom_eq further further' fileNames fileNames' relativePath
    rwa [same]
  · intro hasView
    exact ⟨_, mem, viewOf?_eq_some_iff.mpr ⟨inside, hasView, head, has.stem_eq.symm, rfl⟩⟩

/-- With a loaded configuration, a file with a listed extension has the extension of a view exactly
if this matches its own lower-case form. -/
theorem hasViewExtension_listed_iff
    (loaded : Config.loadFrom disk directory overrides valueOf? = .ok config)
    (lists : ListsExtension valueOf? disk directory extension) (nonempty : extension ≠ "")
    (noDot : '.' ∉ extension.toList) {fileName : String}
    (has : HasExtension fileName name extension) :
    (ofSettings config.locators).hasViewExtension fileName = true ↔
      Naming.eqIgnoreAsciiCase (Unicode.lower extension) extension = true := by
  rw [ofSettings, hasViewExtension_iff]
  constructor
  · rintro ⟨stem, own, has', normalized, mem, matched⟩
    -- A name has one extension only, so it is this one that was matched.
    obtain rfl : extension = own :=
      Option.some.inj (has.extension?_eq.symm.trans has'.extension?_eq)
    obtain ⟨listed, rfl⟩ := exists_normalizeExtension_eq loaded mem
    exact eqIgnoreAsciiCase_lower_of_normalized matched
  · intro matched
    -- The extension itself is there in lower case, which the locator does not change any more.
    have mem := lower_mem_viewExtensions loaded lists nonempty noDot
    refine ⟨name, extension, has, _, mem, ?_⟩
    rwa [Unicode.lower_lower]

/-- With a loaded configuration, the view of a file with a listed extension is reported exactly if
the extension matches its own lower-case form. -/
theorem mem_find_listed_iff (tree : disk.root.IsTree) (names : disk.root.HasFileNames)
    (loaded : Config.loadFrom disk directory overrides valueOf? = .ok config)
    (lists : ListsExtension valueOf? disk directory extension) (nonempty : extension ≠ "")
    (noDot : '.' ∉ extension.toList)
    (spelled : IsSpelled disk directory config.locators.viewsFolder controller path name
      extension) :
    (⟨controller, name, pathFrom directory (Path.join
      (Path.join directory config.locators.viewsFolder) (Text.join "/" path))⟩ : View) ∈
        (ofSettings config.locators).find disk directory ↔
      Naming.eqIgnoreAsciiCase (Unicode.lower extension) extension = true := by
  have reported := mem_find_spelled_iff (ofSettings config.locators) tree names noDot spelled
  have isView := hasViewExtension_listed_iff loaded lists nonempty noDot
    (spelled.hasExtension noDot)
  exact reported.trans isView

/-- A file whose extension is spelled like one in the configuration is reported as a view exactly if
each character of the extension has the lower-case form that it has in ASCII. -/
theorem find_spelled_iff (tree : disk.root.IsTree) (names : disk.root.HasFileNames)
    (loaded : Config.loadFrom disk directory overrides valueOf? = .ok config)
    (lists : ListsExtension valueOf? disk directory extension) (nonempty : extension ≠ "")
    (noDot : '.' ∉ extension.toList)
    (spelled : IsSpelled disk directory config.locators.viewsFolder controller path name
      extension) :
    (⟨controller, name, pathFrom directory (Path.join
      (Path.join directory config.locators.viewsFolder) (Text.join "/" path))⟩ : View) ∈
        (ofSettings config.locators).find disk directory ↔
      ∀ c ∈ extension.toList, Unicode.lowerChar c = [Unicode.lowerAscii c] := by
  have reported := mem_find_listed_iff tree names loaded lists nonempty noDot spelled
  exact reported.trans Naming.eqIgnoreAsciiCase_lower_iff

/-- An extension with a small letter beyond ASCII and a capital one of ASCII is found. -/
theorem find_spelled_beyond_ascii :
    let document := "[locators]\nview_extensions = [\".vb\", \"\u00e9X\"]\n"
    let views : Entry := .directory [("Home", .directory [("Index.\u00e9X", .file "".toUTF8)])]
    let disk : Disk := ⟨.directory [("app", .directory [("r4mvc.toml", .file document.toUTF8),
      ("Views", views)])], []⟩
    ∃ config, Config.loadFrom disk "/app" {} = .ok config ∧
      ListsExtension Toml.document? disk "/app" "\u00e9X" ∧
      IsSpelled disk "/app" config.locators.viewsFolder "Home" ["Home", "Index.\u00e9X"] "Index"
        "\u00e9X" ∧
      (⟨"Home", "Index", "Views/Home/Index.\u00e9X"⟩ : View) ∈
        (ofSettings config.locators).find disk "/app" := by
  intro document views disk
  obtain ⟨tree, names⟩ := disk.root.isTree_of_isWellNamed (by decide)
  let config : Config := { locators := { viewExtensions := ["vb", "\u00e9x"] } }
  have loaded : Config.loadFrom disk "/app" {} = .ok config := by decide +kernel
  have lists : ListsExtension Toml.document? disk "/app" "\u00e9X" :=
    ⟨some document, { locators := { viewExtensions := [".vb", "\u00e9X"] } },
      by decide +kernel, by decide +kernel, by decide⟩
  have spelled : IsSpelled disk "/app" "Views" "Home" ["Home", "Index.\u00e9X"] "Index"
      "\u00e9X" :=
    ⟨⟨"".toUTF8, rfl⟩, ⟨[], by decide⟩, by decide⟩
  have letters := Naming.eqIgnoreAsciiCase_lower_iff.mp
    (by decide +kernel : Naming.eqIgnoreAsciiCase (Unicode.lower "\u00e9X") "\u00e9X" = true)
  have found := (find_spelled_iff tree names loaded lists (by decide) (by decide) spelled).mpr
    letters
  have relativePath : pathFrom "/app" (Path.join (Path.join "/app" config.locators.viewsFolder)
      (Text.join "/" ["Home", "Index.\u00e9X"])) = "Views/Home/Index.\u00e9X" := by decide +kernel
  rw [relativePath] at found
  exact ⟨config, loaded, lists, spelled, found⟩

/-- A capital letter beyond ASCII in an extension keeps its own files from being found. -/
theorem capital_beyond_ascii_not_found :
    let document := "[locators]\nview_extensions = [\"\u00c9\"]\n"
    let views : Entry := .directory [("Home", .directory [("Index.\u00c9", .file "".toUTF8)])]
    let disk : Disk := ⟨.directory [("app", .directory [("r4mvc.toml", .file document.toUTF8),
      ("Views", views)])], []⟩
    ∃ config, Config.loadFrom disk "/app" {} = .ok config ∧
      ListsExtension Toml.document? disk "/app" "\u00c9" ∧
      IsSpelled disk "/app" config.locators.viewsFolder "Home" ["Home", "Index.\u00c9"] "Index"
        "\u00c9" ∧
      (ofSettings config.locators).find disk "/app" = [] := by
  intro document views disk
  let config : Config := { locators := { viewExtensions := ["\u00e9"] } }
  have loaded : Config.loadFrom disk "/app" {} = .ok config := by decide +kernel
  have lists : ListsExtension Toml.document? disk "/app" "\u00c9" :=
    ⟨some document, { locators := { viewExtensions := ["\u00c9"] } },
      by decide +kernel, by decide +kernel, by decide⟩
  have spelled : IsSpelled disk "/app" "Views" "Home" ["Home", "Index.\u00c9"] "Index"
      "\u00c9" :=
    ⟨⟨"".toUTF8, rfl⟩, ⟨[], by decide⟩, by decide⟩
  exact ⟨config, loaded, lists, spelled, by decide +kernel⟩

end TypedMvc.Project.ViewLocator
