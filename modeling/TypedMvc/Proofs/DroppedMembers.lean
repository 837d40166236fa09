import TypedMvc.Command.Report
import TypedMvc.Proofs.ViewFields
import TypedMvc.Synthesis.Root

/-!
# Warnings about what gets no field

A run warns of the views of a controller and of the static files that get no field. It finds them by
a loop of its own, not by looking at the generated classes. What the classes have fields for can be
told from the classes alone: give the views other paths, and the fields follow those that they are
made from (`MadeFrom`). This determines the places that the fields come from
(`MadeFrom.unique`), so it can be said of each place whether something there has a field.
`droppedWarnings_complement` says that the warnings are about the other places, one for each.
-/

namespace TypedMvc.Command

open Declaration Model Naming Synthesis

/-! ## Where fields come from -/

/-- Some texts are made of the paths at some places, in this order, whatever the paths are. -/
def MadeFrom (value : String → String) (texts : (ℕ → String) → List String) (places : List ℕ) :
    Prop :=
  ∀ paths, texts paths = places.map fun i => value (paths i)

/-- The path of as many letters as the number of a place. -/
def markedPath (i : ℕ) : String := String.ofList (List.replicate i 'a')

/-- Slashes do not matter to the paths that mark places. -/
theorem normalizeSeparators_markedPath (i : ℕ) :
    normalizeSeparators (markedPath i) = markedPath i := by
  rw [normalizeSeparators, markedPath, String.toList_ofList, List.map_replicate, if_neg (by decide)]

/-- There are enough paths to tell all places apart. -/
theorem markedPath_injective : Function.Injective markedPath := by
  intro i j same
  have lengths := congrArg (fun path : String => path.toList.length) same
  simpa only [markedPath, String.toList_ofList, List.length_replicate] using lengths

/-- The places that texts are made from are determined by the texts. -/
theorem MadeFrom.unique {value : String → String} {texts : (ℕ → String) → List String}
    {places others : List ℕ} (distinct : Function.Injective fun i => value (markedPath i))
    (made : MadeFrom value texts places) (madeToo : MadeFrom value texts others) :
    places = others :=
  List.map_injective_iff.mpr distinct ((made markedPath).symm.trans (madeToo markedPath))

/-- The path of a view as the text of a field. -/
def viewText (path : String) : String := "~/" ++ normalizeSeparators path

/-- A view with the path that goes with its place. -/
def viewAt (paths : ℕ → String) (entry : View × ℕ) : View :=
  { entry.1 with relativePath := paths entry.2 }

/-- A static file with the path that goes with its place. -/
def fileAt (paths : ℕ → String) (entry : StaticFile × ℕ) : StaticFile :=
  { entry.1 with relativePath := paths entry.2 }

/-- The texts in the class of the views of a controller, if the views have other paths. -/
def viewTexts (controller : Controller) (views : List View) (paths : ℕ → String) : List String :=
  (textFieldsOf (viewsClass controller (views.zipIdx.map (viewAt paths)))).map Prod.snd

/-- The texts in the class for the static files, if the files have other paths. -/
def fileTexts (settings : Settings.Generation) (files : List StaticFile) (paths : ℕ → String) :
    List String :=
  (textFieldsOf (linksClass (files.zipIdx.map (fileAt paths)) settings)).map Prod.snd

/-- The static files that get fields, each with its place among all files. -/
def filesWithFields (linksClass : String) (files : List StaticFile) : List (StaticFile × ℕ) :=
  files.zipIdx.filter fun entry =>
    ComesFirst (fun _ => true) StaticFile.fileName [linksClass] files entry

/-- The fields for the paths of the views of a controller are made from the views that come first
with their identifiers. -/
theorem madeFrom_viewTexts_iff (controller : Controller) (views : List View) (places : List ℕ) :
    MadeFrom viewText (viewTexts controller views) places ↔
      places = (viewsWithFields controller views).map Prod.snd := by
  have made : MadeFrom viewText (viewTexts controller views)
      ((viewsWithFields controller views).map Prod.snd) := by
    intro paths
    rw [viewTexts, textFieldsOf_viewsClass controller views (viewAt paths) fun _ => ⟨rfl, rfl⟩,
      List.map_map, List.map_map]
    rfl
  have distinct : Function.Injective fun i => viewText (markedPath i) := by
    intro i j same
    simp only [viewText, normalizeSeparators_markedPath] at same
    exact markedPath_injective ((String.append_right_inj "~/").mp same)
  exact ⟨fun madeToo => madeToo.unique distinct made, fun is => is ▸ made⟩

/-- The fields for the static files are made from the files that come first with their
identifiers. -/
theorem madeFrom_fileTexts_iff (settings : Settings.Generation) (files : List StaticFile)
    (places : List ℕ) :
    MadeFrom normalizeSeparators (fileTexts settings files) places ↔
      places = (filesWithFields settings.linksClass files).map Prod.snd := by
  have made : MadeFrom normalizeSeparators (fileTexts settings files)
      ((filesWithFields settings.linksClass files).map Prod.snd) := by
    intro paths
    have pairs : (files.zipIdx.map (fileAt paths)).map (fun file => (file.fileName, file.urlPath)) =
        (files.zipIdx.filter fun _ => true).map fun entry =>
          (entry.1.fileName, normalizeSeparators (paths entry.2)) := by
      rw [List.filter_true, List.map_map]
      rfl
    rw [fileTexts, textFieldsOf_of_children rfl (List.forall_mem_nil _), pairs,
      firstByIdentifier_places (fun _ => true), List.map_map, List.map_map]
    rfl
  have distinct : Function.Injective fun i => normalizeSeparators (markedPath i) := by
    simpa only [normalizeSeparators_markedPath] using markedPath_injective
  exact ⟨fun madeToo => madeToo.unique distinct made, fun is => is ▸ made⟩

/-! ## What the warnings are about -/

/-- Something is at one of the places of the entries that pass a test exactly if it passes. -/
theorem mem_places_iff {α : Type} {items : List α} {test : α × ℕ → Bool} {entry : α × ℕ}
    (mem : entry ∈ items.zipIdx) :
    entry.2 ∈ (items.zipIdx.filter test).map Prod.snd ↔ test entry = true := by
  rw [List.mem_map]
  constructor
  · rintro ⟨other, isKept, place⟩
    obtain ⟨memOther, passes⟩ := List.mem_filter.mp isKept
    -- Only one thing stands at a place.
    have here := List.mem_zipIdx_iff_getElem?.mp mem
    have hereToo := List.mem_zipIdx_iff_getElem?.mp memOther
    rw [place, here, Option.some.injEq] at hereToo
    rwa [Prod.ext hereToo.symm place] at passes
  · exact fun passes => ⟨entry, List.mem_filter.mpr ⟨mem, passes⟩, rfl⟩

/-- What is reported as dropped is at the places from which no field comes. -/
theorem droppedFrom_complement {α : Type} (belongs : α → Bool) (name : α → String)
    (taken : List String) (items : List α) :
    let places := (items.zipIdx.filter fun entry =>
      ComesFirst belongs name taken items entry).map Prod.snd
    droppedFrom name taken (items.filter belongs) =
      (items.zipIdx.filter fun entry => belongs entry.1 && !places.contains entry.2).map
        fun entry => (entry.1, memberIdentifier (name entry.1)) := by
  intro places
  rw [droppedFrom_places]
  refine congrArg (List.map _) (List.filter_congr fun entry mem => ?_)
  have same : places.contains entry.2 = decide (ComesFirst belongs name taken items entry) := by
    rw [Bool.eq_iff_iff, List.contains_iff_mem]
    exact mem_places_iff mem
  rw [same]

/-- The views of a controller that are reported are those that no field comes from. -/
theorem droppedViews_eq (controller : Controller) (views : List View) :
    droppedViews controller views =
      (views.zipIdx.filter fun entry => controller.ownsView entry.1 &&
        !((viewsWithFields controller views).map Prod.snd).contains entry.2).map fun entry =>
          (entry.1, memberIdentifier entry.1.viewName) :=
  droppedFrom_complement controller.ownsView View.viewName reservedViewNames views

/-- The static files that are reported are those that no field comes from. -/
theorem droppedFiles_eq (linksClass : String) (files : List StaticFile) :
    droppedFiles linksClass files =
      (files.zipIdx.filter fun entry =>
        !((filesWithFields linksClass files).map Prod.snd).contains entry.2).map fun entry =>
          (entry.1, memberIdentifier entry.1.fileName) := by
  have dropped := droppedFrom_complement (fun _ => true) StaticFile.fileName [linksClass] files
  rwa [List.filter_true] at dropped

/-- The warnings about views and static files are about those that get no field: one for each view
of a controller that no field in the class of its views is made from, and one for each static file
that no field is made from. -/
theorem droppedWarnings_complement (controllers : List Controller) (views : List View)
    (files : List StaticFile) (settings : Settings.Generation) :
    ∃ viewPlaces : Controller → List ℕ, ∃ filePlaces : List ℕ,
      (∀ controller places, MadeFrom viewText (viewTexts controller views) places ↔
        places = viewPlaces controller) ∧
      (∀ places, MadeFrom normalizeSeparators (fileTexts settings files) places ↔
        places = filePlaces) ∧
      droppedWarnings controllers views files settings.linksClass =
        (controllers.flatMap fun controller =>
          (views.zipIdx.filter fun entry => controller.ownsView entry.1 &&
            !(viewPlaces controller).contains entry.2).map fun entry =>
              viewWarning controller (entry.1, memberIdentifier entry.1.viewName)) ++
        (files.zipIdx.filter fun entry => !filePlaces.contains entry.2).map fun entry =>
          fileWarning (entry.1, memberIdentifier entry.1.fileName) := by
  -- What fields come from is fixed by the classes alone, so the witnesses are what the loops keep.
  refine ⟨fun controller => (viewsWithFields controller views).map Prod.snd,
    (filesWithFields settings.linksClass files).map Prod.snd,
    fun controller => madeFrom_viewTexts_iff controller views,
    madeFrom_fileTexts_iff settings files, ?_⟩
  simp only [droppedWarnings, droppedViews_eq, droppedFiles_eq, List.map_map]
  rfl

end TypedMvc.Command
