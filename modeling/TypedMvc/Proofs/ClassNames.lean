import TypedMvc.Proofs.ClassMembers
import TypedMvc.Proofs.Convention
import TypedMvc.Proofs.Inheritance
import TypedMvc.Proofs.NamespaceLayout

/-!
# When two classes of a generated namespace clash

The classes in a namespace of a generated unit are the parts of its controllers, called like their
types, and in one namespace also the two classes of the whole project, called as the settings say
(`names_classesIn`). The check for collisions compares what controllers are called without the
suffix, and that keeps their types apart as well (`nodup_typeNames`). It does not look at the
types of the controllers when it comes to the two classes of the project:
`classesApart_generate_iff` shows that two classes of a namespace clash exactly if one of these two
is called like the type of a controller beside it, and `class_named_like_root_class` is a project
where this happens.
-/

namespace TypedMvc.Synthesis

open Controllers Declaration Model Naming Symbols

/-- No two classes directly inside the same namespace of a unit have the same name. -/
def HasDistinctClasses (unit : CompilationUnit) : Prop :=
  ∀ space ∈ unit.members, ((space.childrenOf .classKind).map Node.name).Nodup

instance (unit : CompilationUnit) : Decidable (HasDistinctClasses unit) :=
  inferInstanceAs (Decidable (∀ space ∈ unit.members, _))

/-! ## The names of the classes in a namespace -/

/-- The names of the types of the controllers in a namespace. -/
def typeNamesIn (controllers : List Controller) (name : String) : List String :=
  (controllers.filter fun c => namespaceOf c = name).map (·.typeName)

/-- A type name in a namespace is that of a controller there. -/
theorem mem_typeNamesIn {controllers : List Controller} {name typeName : String} :
    typeName ∈ typeNamesIn controllers name ↔
      ∃ c ∈ controllers, namespaceOf c = name ∧ c.typeName = typeName := by
  simp only [typeNamesIn, List.mem_map, List.mem_filter, decide_eq_true_eq, and_assoc]

/-- The classes in a namespace are called like the types of its controllers and, if it is the
namespace of the settings, like the classes of the project. -/
theorem names_classesIn (controllers : List Controller) (views : List View)
    (files : List StaticFile) (settings : Settings.Generation) (name : String) :
    (classesIn controllers views files settings name).map Node.name =
      typeNamesIn controllers name ++
        if name = settings.namespaceName then [settings.helpersPrefix, settings.linksClass]
        else [] := by
  have parts : (partsIn controllers views name).map Node.name = typeNamesIn controllers name := by
    rw [partsIn, List.map_map]
    rfl
  rw [classesIn, List.map_append, parts]
  split <;> rfl

/-- Classes are told apart in a unit exactly if the names of the classes in each of its namespaces
are distinct. -/
theorem hasDistinctClasses_iff {controllers : List Controller} {views : List View}
    {files : List StaticFile} {settings : Settings.Generation} {unit : CompilationUnit}
    (generated : generate controllers views files settings = .ok unit) :
    HasDistinctClasses unit ↔
      ∀ name ∈ namespaceNames controllers settings,
        ((classesIn controllers views files settings name).map Node.name).Nodup := by
  have children : ∀ name : String, ((Node.ofNamespace name).withChildren
      (classesIn controllers views files settings name)).childrenOf .classKind =
        classesIn controllers views files settings name :=
    fun name => List.filter_eq_self.mpr fun node mem => by simp [kind_of_mem_classesIn mem]
  rw [HasDistinctClasses, members_generate generated, List.forall_mem_map]
  simp only [children]

/-! ## Controllers of one suffix -/

/-- A controller that is found is called like its type without the suffix. -/
theorem name_of_mem_discover {suffix : String} {snapshot : Snapshot} {controller : Controller}
    (mem : controller ∈ discover suffix snapshot) :
    controller.name = stripSuffix controller.typeName suffix := by
  obtain ⟨merged, -, rfl⟩ := List.mem_map.mp mem
  rfl

/-- Controllers that are called like their types without one suffix have distinct types if they have
distinct fields. -/
theorem nodup_typeNames_of_fieldNames {suffix : String} {controllers : List Controller}
    (called : ∀ c ∈ controllers, c.name = stripSuffix c.typeName suffix)
    (distinct : (controllers.map fieldNameOf).Nodup) : (controllers.map (·.typeName)).Nodup := by
  have fields : controllers.map fieldNameOf =
      (controllers.map (·.typeName)).map fun typeName =>
        memberIdentifier (stripSuffix typeName suffix) := by
    rw [List.map_map]
    refine List.map_congr_left fun c mem => ?_
    rw [fieldNameOf, called c mem]
    rfl
  rw [fields] at distinct
  exact distinct.of_map

/-- Controllers that are called like their types without one suffix, and do not collide, have
distinct types. -/
theorem nodup_typeNames {suffix : String} {controllers : List Controller}
    {settings : Settings.Generation}
    (called : ∀ c ∈ controllers, c.name = stripSuffix c.typeName suffix)
    (clear : collision? controllers settings = none) :
    (controllers.map (·.typeName)).Nodup :=
  nodup_typeNames_of_fieldNames called (collisionFrom_eq_none_iff.mp clear).1

/-! ## Clashes with the classes of the project -/

/-- Two classes of a namespace of a generated unit have the same name exactly if one of the classes
of the project is called like the type of a controller in its namespace. -/
theorem classesApart_generate_iff {snapshot : Snapshot} {views : List View}
    {files : List StaticFile} {settings : Settings.Generation} {unit : CompilationUnit}
    (valid : settings.fault? = none)
    (generated : generate (discover settings.controllerSuffix snapshot) views files settings =
      .ok unit) :
    HasDistinctClasses unit ↔
      ∀ controller ∈ discover settings.controllerSuffix snapshot,
        namespaceOf controller = settings.namespaceName →
          controller.typeName ≠ settings.helpersPrefix ∧
            controller.typeName ≠ settings.linksClass := by
  obtain ⟨-, -, -, -, apart, -⟩ := Settings.Generation.fault?_eq_none_iff.mp valid
  obtain ⟨clear, -⟩ := generate_eq_ok_iff.mp generated
  generalize controllers_eq : discover settings.controllerSuffix snapshot = controllers
    at generated clear ⊢
  have distinct : ∀ name, (typeNamesIn controllers name).Nodup := fun name =>
    (nodup_typeNames (fun c mem => name_of_mem_discover (controllers_eq ▸ mem)) clear).sublist
      (List.filter_sublist.map _)
  have project : [settings.helpersPrefix, settings.linksClass].Nodup := by simpa using apart
  -- The namespace of the settings is there even if it has no controllers.
  have known : settings.namespaceName ∈ namespaceNames controllers settings :=
    mem_namespaceNames.mpr (Or.inr rfl)
  rw [hasDistinctClasses_iff generated]
  constructor
  · intro classes controller mem here
    have together := classes _ known
    rw [names_classesIn, if_pos rfl, List.nodup_append] at together
    have isType := mem_typeNamesIn.mpr ⟨controller, mem, here, rfl⟩
    exact ⟨together.2.2 _ isType _ List.mem_cons_self,
      together.2.2 _ isType _ (List.mem_cons_of_mem _ List.mem_cons_self)⟩
  · intro free name _
    rw [names_classesIn]
    split
    · next here =>
      refine List.nodup_append.mpr ⟨distinct name, project, fun typeName isType other isOther => ?_⟩
      obtain ⟨controller, mem, inside, rfl⟩ := mem_typeNamesIn.mp isType
      obtain ⟨notRoot, notLinks⟩ := free controller mem (inside.trans here)
      rcases List.mem_cons.mp isOther with rfl | isLinks
      · exact notRoot
      · rw [List.mem_singleton.mp isLinks]
        exact notLinks
    · -- In any other namespace there are only controllers.
      rw [List.append_nil]
      exact distinct name

/-- A class for links that is called like the type of a controller does not clash with it in another
namespace. -/
theorem classesApart_elsewhere :
    let home := { publicClass "HomeController" [] with attributes := ["Controller"] }
    let links := { publicClass "LinksController" [] with
      attributes := ["Controller"], namespaceName := some "App" }
    let settings : Settings.Generation := { linksClass := "LinksController" }
    let controllers := discover settings.controllerSuffix ⟨[home, links], []⟩
    controllers.map (·.typeName) = ["HomeController", "LinksController"] ∧
      settings.fault? = none ∧
      ∃ unit, generate controllers [] [] settings = .ok unit ∧ HasDistinctClasses unit := by
  intro home links settings controllers
  have valid : settings.fault? = none := by decide +kernel
  have clear : collision? controllers settings = none := by decide +kernel
  have free : ∀ controller ∈ controllers, namespaceOf controller = settings.namespaceName →
      controller.typeName ≠ settings.helpersPrefix ∧
        controller.typeName ≠ settings.linksClass := by decide +kernel
  obtain ⟨unit, generated⟩ : ∃ unit, generate controllers [] [] settings = .ok unit :=
    ⟨_, generate_eq_ok_iff.mpr ⟨clear, rfl⟩⟩
  exact ⟨by decide +kernel, valid, unit, generated,
    (classesApart_generate_iff valid generated).mpr free⟩

/-- A class for the controllers that is called like the type of one of them clashes with its part,
although the settings are valid and nothing collides. -/
theorem class_named_like_root_class :
    let home := { publicClass "HomeController" [] with
      attributes := ["Controller"], modifiers := ["public", "partial"] }
    let settings : Settings.Generation := { helpersPrefix := "HomeController" }
    settings.fault? = none ∧
      ∃ unit, generate (discover settings.controllerSuffix ⟨[home], []⟩) [] [] settings =
          .ok unit ∧
        unit.members.map (fun space => (space.childrenOf .classKind).map Node.name) =
          [["HomeController", "HomeController", "Links"]] ∧
        ¬ HasDistinctClasses unit := by
  intro home settings
  have valid : settings.fault? = none := by decide +kernel
  have clear : collision? (discover settings.controllerSuffix ⟨[home], []⟩) settings = none := by
    decide +kernel
  refine ⟨valid, _, generate_eq_ok_iff.mpr ⟨clear, rfl⟩, by decide +kernel, fun apart => ?_⟩
  exact absurd apart (by decide +kernel)

end TypedMvc.Synthesis
