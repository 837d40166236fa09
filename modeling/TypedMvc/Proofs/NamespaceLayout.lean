import Mathlib.Data.List.Induction
import TypedMvc.Proofs.GeneratedClasses

/-!
# The namespaces of a generated unit

`generate` adds the parts of the controllers to groups one by one. `members_generate` says what
comes out without any group: there is a namespace for each name that a controller or the settings
give (`namespaceNames`), in order of first appearance, and in it are the parts of its controllers
in order, followed by the classes of the whole project if it is the namespace of the settings
(`classesIn`).
-/

namespace TypedMvc.Model.Controller

/-! ## Names without repetition -/

/-- Each name of the list that was not seen before is kept. -/
theorem mem_distinctFrom {seen names : List String} {name : String} :
    name ∈ distinctFrom seen names ↔ name ∈ names ∧ name ∉ seen := by
  induction names generalizing seen with
  | nil => simp [distinctFrom]
  | cons first rest ih =>
    rw [distinctFrom]
    split
    · next known => grind
    · next new => grind

/-- No name is kept twice. -/
theorem nodup_distinctFrom (seen names : List String) : (distinctFrom seen names).Nodup := by
  induction names generalizing seen with
  | nil => exact List.nodup_nil
  | cons first rest ih =>
    rw [distinctFrom]
    split
    · exact ih seen
    · refine List.nodup_cons.mpr ⟨fun again => ?_, ih (first :: seen)⟩
      exact (mem_distinctFrom.mp again).2 List.mem_cons_self

/-- One more name is kept unless it was seen before. -/
theorem distinctFrom_concat (seen names : List String) (last : String) :
    distinctFrom seen (names ++ [last]) =
      if last ∈ seen ∨ last ∈ names then distinctFrom seen names
      else distinctFrom seen names ++ [last] := by
  induction names generalizing seen with
  | nil => simp [distinctFrom]
  | cons first rest ih =>
    rw [List.cons_append, distinctFrom, distinctFrom]
    by_cases known : first ∈ seen
    · rw [if_pos known, if_pos known, ih]
      grind
    · rw [if_neg known, if_neg known, ih]
      grind

end TypedMvc.Model.Controller

namespace TypedMvc.Synthesis

open Declaration Model Controller

/-! ## Groups of declarations -/

section Groups

variable {names : List String} {known : String → List Node} {name : String} {more : List Node}

/-- Groups of other names stay as they are. -/
theorem map_group_of_notMem (absent : name ∉ names) :
    (names.map fun n => (n, known n ++ if n = name then more else [])) =
      names.map fun n => (n, known n) := by
  refine List.map_congr_left fun n mem => ?_
  have other : n ≠ name := by
    rintro rfl
    exact absent mem
  rw [if_neg other, List.append_nil]

/-- Declarations that are added to a group stand behind those that are in it. A group that is not
there is put last. -/
theorem addToGroup_map (distinct : names.Nodup) (empty : name ∉ names → known name = []) :
    addToGroup name more (names.map fun n => (n, known n)) =
      (if name ∈ names then names else names ++ [name]).map fun n =>
        (n, known n ++ if n = name then more else []) := by
  induction names with
  | nil => simp [addToGroup, empty]
  | cons first rest ih =>
    obtain ⟨alone, distinct⟩ := List.nodup_cons.mp distinct
    rw [List.map_cons, addToGroup]
    by_cases same : first = name
    · -- The first group is the one, and no other has its name.
      have others : (rest.map fun n => (n, known n ++ if n = name then more else [])) =
          rest.map fun n => (n, known n) := map_group_of_notMem (same ▸ alone)
      rw [if_pos same, if_pos (List.mem_cons.mpr (Or.inl same.symm)), List.map_cons, if_pos same,
        others]
    · have mem_iff : name ∈ first :: rest ↔ name ∈ rest := by
        rw [List.mem_cons]
        exact or_iff_right (Ne.symm same)
      have first_eq : (first, known first) =
          (first, known first ++ if first = name then more else []) := by
        rw [if_neg same, List.append_nil]
      rw [if_neg same, ih distinct fun absent => empty (mt mem_iff.mp absent), first_eq]
      by_cases later : name ∈ rest
      · rw [if_pos later, if_pos (mem_iff.mpr later), List.map_cons]
      · rw [if_neg later, if_neg (mt mem_iff.mp later), List.cons_append, List.map_cons]

end Groups

/-- The parts of the controllers of a namespace. -/
def partsIn (controllers : List Controller) (views : List View) (name : String) : List Node :=
  (controllers.filter fun c => namespaceOf c = name).map fun c => controllerPart c views

/-- The parts of one more controller. -/
theorem partsIn_concat (controllers : List Controller) (views : List View) (last : Controller)
    (name : String) :
    partsIn (controllers ++ [last]) views name =
      partsIn controllers views name ++
        if name = namespaceOf last then [controllerPart last views] else [] := by
  rw [partsIn, List.filter_append, List.map_append, ← partsIn]
  by_cases same : name = namespaceOf last
  · rw [if_pos same, List.filter_cons, if_pos (decide_eq_true same.symm)]
    rfl
  · rw [if_neg same, List.filter_cons, if_neg (by simpa using Ne.symm same)]
    rfl

/-- There are no parts in a namespace that no controller has. -/
theorem partsIn_eq_nil {controllers : List Controller} {name : String}
    (absent : name ∉ controllers.map namespaceOf) (views : List View) :
    partsIn controllers views name = [] := by
  rw [partsIn, List.map_eq_nil_iff, List.filter_eq_nil_iff]
  intro c mem same
  exact absent (List.mem_map.mpr ⟨c, mem, of_decide_eq_true same⟩)

/-- Adding to one of the groups of the controllers, or to a new one behind them. -/
theorem addToGroup_partsIn (controllers : List Controller) (views : List View) (name : String)
    (more : List Node) :
    addToGroup name more ((distinctFrom [] (controllers.map namespaceOf)).map fun n =>
        (n, partsIn controllers views n)) =
      (distinctFrom [] (controllers.map namespaceOf ++ [name])).map fun n =>
        (n, partsIn controllers views n ++ if n = name then more else []) := by
  have mem_iff : name ∈ distinctFrom [] (controllers.map namespaceOf) ↔
      name ∈ controllers.map namespaceOf := by
    rw [mem_distinctFrom, and_iff_left List.not_mem_nil]
  rw [addToGroup_map (nodup_distinctFrom _ _) fun absent =>
    partsIn_eq_nil (mt mem_iff.mpr absent) views, distinctFrom_concat]
  simp only [mem_iff, List.not_mem_nil, false_or]

/-- The groups of the controllers: a group for each namespace, in order of first appearance, with
the parts of its controllers in order. -/
theorem controllerGroups_eq (controllers : List Controller) (views : List View) :
    controllerGroups controllers views =
      (distinctFrom [] (controllers.map namespaceOf)).map fun name =>
        (name, partsIn controllers views name) := by
  -- From the right, as the fold adds the part of the last controller last.
  induction controllers using List.reverseRecOn with
  | nil => rfl
  | append_singleton before last ih =>
    rw [controllerGroups, List.foldl_append, ← controllerGroups, ih, List.foldl_cons,
      List.foldl_nil, addToGroup_partsIn, List.map_append, List.map_singleton]
    simp only [partsIn_concat]

/-! ## The namespaces of the unit -/

/-- The names of the namespaces of a unit: those of the controllers and then that of the settings,
each once. -/
def namespaceNames (controllers : List Controller) (settings : Settings.Generation) :
    List String :=
  distinctFrom [] (controllers.map namespaceOf ++ [settings.namespaceName])

/-- A unit has the namespaces of the controllers and that of the settings. -/
theorem mem_namespaceNames {controllers : List Controller} {settings : Settings.Generation}
    {name : String} :
    name ∈ namespaceNames controllers settings ↔
      (∃ c ∈ controllers, namespaceOf c = name) ∨ name = settings.namespaceName := by
  rw [namespaceNames, mem_distinctFrom, and_iff_left List.not_mem_nil, List.mem_append,
    List.mem_map, List.mem_singleton]

/-- No namespace comes twice. -/
theorem nodup_namespaceNames (controllers : List Controller) (settings : Settings.Generation) :
    (namespaceNames controllers settings).Nodup := nodup_distinctFrom _ _

/-- The classes in a namespace of a unit: the parts of its controllers and, if it is the namespace
of the settings, the classes of the whole project. -/
def classesIn (controllers : List Controller) (views : List View) (files : List StaticFile)
    (settings : Settings.Generation) (name : String) : List Node :=
  partsIn controllers views name ++
    if name = settings.namespaceName then
      [rootClass controllers settings, linksClass files settings]
    else []

/-- The declarations in a namespace of a unit are classes. -/
theorem kind_of_mem_classesIn {controllers : List Controller} {views : List View}
    {files : List StaticFile} {settings : Settings.Generation} {name : String} {node : Node}
    (mem : node ∈ classesIn controllers views files settings name) : node.kind = .classKind := by
  rcases List.mem_append.mp mem with isPart | ofProject
  · obtain ⟨controller, -, rfl⟩ := List.mem_map.mp isPart
    rfl
  · split at ofProject
    · rcases List.mem_cons.mp ofProject with rfl | isLinks
      · rfl
      · rw [List.mem_singleton.mp isLinks]
        rfl
    · exact absurd ofProject List.not_mem_nil

/-- Each namespace of a unit has a class in it. -/
theorem classesIn_ne_nil {controllers : List Controller} {settings : Settings.Generation}
    (views : List View) (files : List StaticFile) {name : String}
    (mem : name ∈ namespaceNames controllers settings) :
    classesIn controllers views files settings name ≠ [] := by
  rcases mem_namespaceNames.mp mem with ⟨controller, isOne, rfl⟩ | isProject
  · have part : controllerPart controller views ∈
        partsIn controllers views (namespaceOf controller) :=
      List.mem_map.mpr ⟨controller, List.mem_filter.mpr ⟨isOne, decide_eq_true rfl⟩, rfl⟩
    exact List.append_ne_nil_of_left_ne_nil (List.ne_nil_of_mem part) _
  · rw [classesIn, if_pos isProject]
    exact List.append_ne_nil_of_right_ne_nil _ (List.cons_ne_nil _ _)

/-- The members of a generated unit are its namespaces, in order of first appearance. -/
theorem members_generate {controllers : List Controller} {views : List View}
    {files : List StaticFile} {settings : Settings.Generation} {unit : CompilationUnit}
    (generated : generate controllers views files settings = .ok unit) :
    unit.members = (namespaceNames controllers settings).map fun name =>
      (Node.ofNamespace name).withChildren (classesIn controllers views files settings name) := by
  obtain ⟨-, rfl⟩ := generate_eq_ok_iff.mp generated
  rw [controllerGroups_eq, addToGroup_partsIn, List.map_map]
  rfl

end TypedMvc.Synthesis
