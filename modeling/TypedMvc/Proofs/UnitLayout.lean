import TypedMvc.Proofs.NamespaceLayout

/-!
# The layout of a generated unit

Where everything in a generated unit stands (`IsLaidOut`): which namespaces there are and in which
order, which of them the part of a controller is in, where the two classes of the whole project
are, what the first of them holds, and which classes are marked as generated. The names of the
namespaces are those of the controllers with the repetitions left out, and `namespaceNames_eq` says
when the namespace of the settings comes behind them. `isLaidOut_generate` shows that everything
that is generated is laid out in this way.
-/

namespace TypedMvc.Model.Controller

/-- Leaving out what was seen before is erasing the repetitions among the others. -/
theorem distinctFrom_eq_eraseDups (seen names : List String) :
    distinctFrom seen names = (names.filter fun name => name ∉ seen).eraseDups := by
  induction names generalizing seen with
  | nil => rfl
  | cons first rest ih =>
    rw [distinctFrom]
    by_cases known : first ∈ seen
    · rw [if_pos known, ih, List.filter_cons_of_neg (by simpa using known)]
    · -- Of the others, those like the first are left out on both sides.
      rw [if_neg known, ih, List.filter_cons_of_pos (by simpa using known), List.eraseDups_cons,
        List.filter_filter]
      congr 3
      funext name
      simp only [List.mem_cons, not_or, Bool.decide_and, decide_not, beq_eq_decide]

/-- If no name was seen before, repetitions are left out. -/
theorem distinctFrom_nil (names : List String) : distinctFrom [] names = names.eraseDups := by
  rw [distinctFrom_eq_eraseDups, List.filter_eq_self.mpr (by simp)]

end TypedMvc.Model.Controller

namespace TypedMvc.Synthesis

open Declaration Model Controller

/-! ## The namespaces -/

/-- The namespaces of the controllers in order of first appearance, and behind them that of the
settings if no controller is in it. -/
theorem namespaceNames_eq (controllers : List Controller) (settings : Settings.Generation) :
    namespaceNames controllers settings =
      (controllers.map namespaceOf).eraseDups ++
        if settings.namespaceName ∈ controllers.map namespaceOf then []
        else [settings.namespaceName] := by
  rw [namespaceNames, distinctFrom_concat, distinctFrom_nil]
  simp only [List.not_mem_nil, false_or]
  split
  · rw [List.append_nil]
  · rfl

/-- What belongs to one of several distinct names is there once. -/
theorem flatMap_of_mem_nodup {names : List String} (distinct : names.Nodup) {name : String}
    (mem : name ∈ names) (more : List Node) :
    (names.flatMap fun n => if n = name then more else []) = more := by
  induction names with
  | nil => exact absurd mem List.not_mem_nil
  | cons first rest ih =>
    obtain ⟨alone, distinct⟩ := List.nodup_cons.mp distinct
    rw [List.flatMap_cons]
    rcases List.mem_cons.mp mem with rfl | later
    · have others : (rest.flatMap fun n => if n = name then more else []) = [] := by
        rw [List.flatMap_eq_nil_iff]
        intro n inRest
        exact if_neg (ne_of_mem_of_not_mem inRest alone)
      rw [if_pos rfl, others, List.append_nil]
    · have other : first ≠ name := (ne_of_mem_of_not_mem later alone).symm
      rw [if_neg other, List.nil_append, ih distinct later]

/-- Sorting the elements of a list by distinct names keeps each of them that has one of the names,
and keeps it once. -/
theorem flatMap_filter_perm {names : List String} (distinct : names.Nodup)
    (controllers : List Controller) :
    (names.flatMap fun name => controllers.filter fun c => namespaceOf c = name).Perm
      (controllers.filter fun c => namespaceOf c ∈ names) := by
  induction names with
  | nil => simp
  | cons first rest ih =>
    obtain ⟨alone, distinct⟩ := List.nodup_cons.mp distinct
    rw [List.flatMap_cons]
    refine ((ih distinct).append_left _).trans ?_
    -- A controller has the first name or one of the others, and never both.
    have here : (controllers.filter fun c => namespaceOf c = first) =
        (controllers.filter fun c => namespaceOf c ∈ first :: rest).filter
          fun c => namespaceOf c = first := by
      rw [List.filter_filter]
      refine List.filter_congr fun c _ => ?_
      by_cases same : namespaceOf c = first <;> simp [same]
    have later : (controllers.filter fun c => namespaceOf c ∈ rest) =
        (controllers.filter fun c => namespaceOf c ∈ first :: rest).filter
          fun c => !decide (namespaceOf c = first) := by
      rw [List.filter_filter]
      refine List.filter_congr fun c _ => ?_
      by_cases same : namespaceOf c = first
      · simp [same, alone]
      · simp [same]
    rw [here, later]
    exact List.filter_append_perm _ _

/-! ## The classes inside them -/

/-- The part of a controller is not marked as generated. -/
theorem attributes_controllerPart (controller : Controller) (views : List View) :
    (controllerPart controller views).attributes = [] := rfl

/-- Every class of a unit but the parts of the controllers is marked as generated. -/
theorem attributes_of_mem_allClasses {controllers : List Controller} {views : List View}
    {files : List StaticFile} {settings : Settings.Generation} {unit : CompilationUnit}
    (generated : generate controllers views files settings = .ok unit) {node : Node}
    (mem : node ∈ unit.allClasses) :
    (∃ controller ∈ controllers, node = controllerPart controller views) ∨
      node.attributes = generatedAttributes := by
  rcases (mem_allClasses_generate generated).mp mem with
    ⟨controller, known, inside⟩ | rfl | rfl
  · rcases mem_classes_controllerPart inside with rfl | rfl | rfl | rfl | rfl
    · exact Or.inl ⟨controller, known, rfl⟩
    · exact Or.inr rfl
    · exact Or.inr rfl
    · exact Or.inr rfl
    · exact Or.inr rfl
  · exact Or.inr rfl
  · exact Or.inr rfl

/-- Everything directly inside the namespaces of a unit that a condition holds of. -/
theorem filter_children_generate {controllers : List Controller} {views : List View}
    {files : List StaticFile} {settings : Settings.Generation} {unit : CompilationUnit}
    (generated : generate controllers views files settings = .ok unit) (keep : Node → Bool) :
    (unit.members.flatMap Node.children).filter keep =
      (namespaceNames controllers settings).flatMap fun name =>
        (partsIn controllers views name).filter keep ++
          if name = settings.namespaceName then
            [rootClass controllers settings, linksClass files settings].filter keep
          else [] := by
  rw [members_generate generated, List.flatMap_map, List.filter_flatMap]
  congr 1
  funext name
  change (classesIn controllers views files settings name).filter keep = _
  rw [classesIn, List.filter_append]
  split <;> rfl

/-- The classes that are not marked as generated are the parts of the controllers. -/
theorem filter_unmarked_perm {controllers : List Controller} {views : List View}
    {files : List StaticFile} {settings : Settings.Generation} {unit : CompilationUnit}
    (generated : generate controllers views files settings = .ok unit) :
    ((unit.members.flatMap Node.children).filter fun n => n.attributes = []).Perm
      (controllers.map fun c => controllerPart c views) := by
  have unmarked : ∀ name, (partsIn controllers views name).filter (fun n => n.attributes = []) =
      partsIn controllers views name := by
    intro name
    refine List.filter_eq_self.mpr fun node mem => ?_
    obtain ⟨c, -, rfl⟩ := List.mem_map.mp mem
    exact decide_eq_true (attributes_controllerPart c views)
  have marked : [rootClass controllers settings, linksClass files settings].filter
      (fun n => n.attributes = []) = [] := rfl
  -- No controller is lost, as the namespace of each is one of the unit.
  have everywhere : (controllers.filter fun c =>
      namespaceOf c ∈ namespaceNames controllers settings) = controllers :=
    List.filter_eq_self.mpr fun c mem =>
      decide_eq_true (mem_namespaceNames.mpr (Or.inl ⟨c, mem, rfl⟩))
  have sorted := flatMap_filter_perm (nodup_namespaceNames controllers settings) controllers
  rw [everywhere] at sorted
  rw [filter_children_generate generated]
  simp only [unmarked, marked, ite_self, List.append_nil]
  have parts := sorted.map fun c => controllerPart c views
  rwa [List.map_flatMap] at parts

/-- The classes directly inside the namespaces that are marked as generated are the two of the
project. -/
theorem filter_marked_eq {controllers : List Controller} {views : List View}
    {files : List StaticFile} {settings : Settings.Generation} {unit : CompilationUnit}
    (generated : generate controllers views files settings = .ok unit) :
    ((unit.members.flatMap Node.children).filter fun n => n.attributes ≠ []) =
      [rootClass controllers settings, linksClass files settings] := by
  have unmarked : ∀ name, (partsIn controllers views name).filter (fun n => n.attributes ≠ []) =
      [] := by
    intro name
    refine List.filter_eq_nil_iff.mpr fun node mem => ?_
    obtain ⟨c, -, rfl⟩ := List.mem_map.mp mem
    simp [attributes_controllerPart]
  have marked : [rootClass controllers settings, linksClass files settings].filter
      (fun n => n.attributes ≠ []) =
        [rootClass controllers settings, linksClass files settings] := rfl
  rw [filter_children_generate generated]
  simp only [unmarked, marked, List.nil_append]
  -- The namespace of the settings is one of the unit, and the only one of its name.
  exact flatMap_of_mem_nodup (nodup_namespaceNames controllers settings)
    (mem_namespaceNames.mpr (Or.inr rfl)) _

/-! ## The layout -/

/-- How a unit is laid out for controllers, views, static files and settings. A class counts as one
of the whole project if it is marked as generated, which the parts of controllers are not. -/
structure IsLaidOut (controllers : List Controller) (views : List View) (files : List StaticFile)
    (settings : Settings.Generation) (unit : CompilationUnit) : Prop where
  /-- The members of the unit are namespaces. -/
  areSpaces : ∀ space ∈ unit.members, space.kind = .namespaceKind
  /-- No two namespaces have the same name. -/
  distinct : (unit.members.map Node.name).Nodup
  /-- The namespaces of the controllers come in order of first appearance, the global one under the
  empty name, and that of the settings comes last if no controller is in it. -/
  order : unit.members.map Node.name =
    (controllers.map fun c => c.namespaceName.getD "").eraseDups ++
      if settings.namespaceName ∈ controllers.map fun c => c.namespaceName.getD "" then []
      else [settings.namespaceName]
  /-- In a namespace are the parts of its controllers in order, and behind them, in that of the
  settings, the two classes of the project. -/
  inside : ∀ space ∈ unit.members, space.children =
    ((controllers.filter fun c => c.namespaceName.getD "" = space.name).map fun c =>
        controllerPart c views) ++
      if space.name = settings.namespaceName then
        [rootClass controllers settings, linksClass files settings]
      else []
  /-- In all namespaces together each controller has its part once. -/
  parts : ((unit.members.flatMap Node.children).filter fun n => n.attributes = []).Perm
    (controllers.map fun c => controllerPart c views)
  /-- In all namespaces together the two classes of the project are there once. -/
  project : ((unit.members.flatMap Node.children).filter fun n => n.attributes ≠ []) =
    [rootClass controllers settings, linksClass files settings]
  /-- The first class of the project has a field for each controller in order, with an instance of
  its type. -/
  fields : ((rootClass controllers settings).children.map fun field =>
      (field.kind, field.typeName?, field.value?)) =
    controllers.map fun c => (Kind.fieldKind, some ("global::" ++ c.qualifiedReference),
      some (Expr.create ("global::" ++ c.qualifiedReference)))
  /-- Every class, however deep, has the two attributes of generated classes and no others, unless
  it is the part of a controller, and then it has none. -/
  attributes : ∀ node ∈ unit.allClasses,
    (∃ c ∈ controllers, node = controllerPart c views) ∧ node.attributes = [] ∨
      (∀ c ∈ controllers, node ≠ controllerPart c views) ∧ node.attributes =
        [{ name := "GeneratedCode", arguments := [.text generatorName, .text generatorVersion] },
          { name := "DebuggerNonUserCode" }]

/-- Everything that is generated is laid out in this way. -/
theorem isLaidOut_generate {controllers : List Controller} {views : List View}
    {files : List StaticFile} {settings : Settings.Generation} {unit : CompilationUnit}
    (generated : generate controllers views files settings = .ok unit) :
    IsLaidOut controllers views files settings unit where
  areSpaces := by
    rw [members_generate generated, List.forall_mem_map]
    exact fun _ _ => rfl
  distinct := by
    have names : unit.members.map Node.name = namespaceNames controllers settings := by
      rw [members_generate generated, List.map_map]
      exact List.map_id _
    rw [names]
    exact nodup_namespaceNames controllers settings
  order := by
    rw [members_generate generated, List.map_map]
    exact (List.map_id _).trans (namespaceNames_eq controllers settings)
  inside := by
    rw [members_generate generated, List.forall_mem_map]
    exact fun _ _ => rfl
  parts := filter_unmarked_perm generated
  project := filter_marked_eq generated
  fields := by
    change (controllers.map controllerField).map _ = _
    rw [List.map_map]
    rfl
  attributes := by
    intro node mem
    rcases attributes_of_mem_allClasses generated mem with ⟨c, known, rfl⟩ | marked
    · exact Or.inl ⟨⟨c, known, rfl⟩, attributes_controllerPart c views⟩
    · refine Or.inr ⟨fun c _ same => ?_, marked⟩
      rw [same, attributes_controllerPart] at marked
      exact absurd marked.symm (List.cons_ne_nil _ _)

/-- Two controllers of a namespace with one of the global namespace between them: they are together
in their namespace, and the classes of the project join the one in the global namespace. -/
theorem isLaidOut_interleaved :
    let controllers := [Controller.ofType "HomeController" (some "App") "Controller",
      Controller.ofType "AdminController" none "Controller",
      Controller.ofType "AccountController" (some "App") "Controller"]
    let settings : Settings.Generation := {}
    ∃ unit, generate controllers [] [] settings = .ok unit ∧
      unit.members.map (fun space => (space.name, space.children.map Node.name)) =
        [("App", ["HomeController", "AccountController"]),
          ("", ["AdminController", "MVC", "Links"])] ∧
      IsLaidOut controllers [] [] settings unit := by
  intro controllers settings
  have clear : collision? controllers settings = none := by decide +kernel
  have generated : generate controllers [] [] settings = .ok _ :=
    generate_eq_ok_iff.mpr ⟨clear, rfl⟩
  exact ⟨_, generated, by decide +kernel, isLaidOut_generate generated⟩

end TypedMvc.Synthesis
