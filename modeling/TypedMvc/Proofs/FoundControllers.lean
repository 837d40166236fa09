import TypedMvc.Proofs.Convention
import TypedMvc.Proofs.Inheritance
import TypedMvc.Proofs.Merging

/-!
# The controllers that are found

Which types are controllers, said without the questions that `classify` asks one after the other
(`IsControllerType`), and what is known of a controller that is found (`Describes`): it is called
like its type without the suffix, it is referred to by the qualified name, and its actions are the
methods of all declarations of the type that are actions. `discover_describes` shows that there is
one controller for each such type, in the order of the first declarations, and no other, and that no
two of them are referred to by the same name.
-/

namespace TypedMvc.Naming

/-! ## Names with a suffix -/

/-- Behind something else, the suffix is taken off. -/
theorem stripSuffix_append {stem : String} (nonempty : stem ≠ "") (suffix : String) :
    stripSuffix (stem ++ suffix) suffix = stem := by
  have other : stem ++ suffix ≠ suffix := by
    intro same
    have chars := congrArg String.toList same
    rw [String.toList_append, List.append_left_eq_self, String.toList_eq_nil_iff] at chars
    exact nonempty chars
  have isSuffix : suffix.toList.isSuffixOf (stem ++ suffix).toList = true := by
    rw [List.isSuffixOf_iff_suffix, String.toList_append]
    exact List.suffix_append _ _
  rw [stripSuffix, if_pos ⟨other, isSuffix⟩, String.toList_append, List.length_append,
    Nat.add_sub_cancel, List.take_left, String.ofList_toList]

end TypedMvc.Naming

namespace TypedMvc.Controllers

open Model Naming Symbols

/-- A name has a suffix and more if it is something that is not empty with the suffix behind it. -/
theorem hasProperSuffix_iff {name suffix : String} :
    hasProperSuffix name suffix = true ↔ ∃ stem, stem ≠ "" ∧ name = stem ++ suffix := by
  rw [hasProperSuffix, Bool.and_eq_true, decide_eq_true_eq, List.isSuffixOf_iff_suffix]
  constructor
  · rintro ⟨longer, stem, chars⟩
    refine ⟨String.ofList stem, ?_, ?_⟩
    · -- An empty stem would leave the name as long as the suffix.
      intro empty
      rw [← String.ofList_nil, String.ofList_inj] at empty
      rw [empty, List.nil_append, String.toList_inj] at chars
      rw [chars] at longer
      exact lt_irrefl _ longer
    · rw [← String.toList_inj, String.toList_append, String.toList_ofList, chars]
  · rintro ⟨stem, nonempty, rfl⟩
    refine ⟨?_, ?_⟩
    · rw [String.utf8ByteSize_append]
      have : stem.utf8ByteSize ≠ 0 := by simpa using nonempty
      omega
    · rw [String.toList_append]
      exact List.suffix_append _ _

/-! ## What makes a type a controller -/

/-- What has to be true of a type for it to be a controller under a suffix: a public class of its
own that is neither abstract nor static nor generic and does not opt out, called by something with
the suffix behind it, that says that it is a controller or inherits from one of the framework. -/
structure IsControllerType (suffix : String) (snapshot : Snapshot) (type : TypeSymbol) : Prop where
  /-- The type is a class. -/
  isClass : type.kind = .classType
  /-- The class is nested in no other type. -/
  isTopLevel : type.containingType = none
  /-- The class is public. -/
  isPublic : "public" ∈ type.modifiers
  /-- The class is not abstract. -/
  notAbstract : "abstract" ∉ type.modifiers
  /-- The class is not static. -/
  notStatic : "static" ∉ type.modifiers
  /-- The class has no type parameters. -/
  notGeneric : type.genericArity = 0
  /-- The name ends with the suffix and is longer. -/
  isSuffixed : ∃ stem, stem ≠ "" ∧ type.name = stem ++ suffix
  /-- The class does not say that it is no controller. -/
  notOptedOut : "NonController" ∉ type.attributes
  /-- The class says that it is a controller, or has one of the framework among its bases. -/
  hasBase : "Controller" ∈ type.attributes ∨
    snapshot.inheritsFrom type ["Controller", "ControllerBase"] = true

/-- The convention takes a type for a controller exactly if all this is true of it. -/
theorem classify_eq_controller_iff_isControllerType {suffix : String} {snapshot : Snapshot}
    {type : TypeSymbol} :
    classify suffix snapshot type = .controller ↔ IsControllerType suffix snapshot type := by
  rw [classify_eq_controller_iff]
  unfold IsCandidate TypeSymbol.hasModifier TypeSymbol.hasAttribute
  rw [hasProperSuffix_iff]
  simp only [List.contains_iff_mem, ← Bool.not_eq_true]
  constructor
  · rintro ⟨⟨isClass, isTopLevel, isSuffixed, isPublic, notAbstract, notStatic, notGeneric,
      notOptedOut⟩, hasBase⟩
    exact ⟨isClass, isTopLevel, isPublic, notAbstract, notStatic, notGeneric, isSuffixed,
      notOptedOut, hasBase⟩
  · rintro ⟨isClass, isTopLevel, isPublic, notAbstract, notStatic, notGeneric, isSuffixed,
      notOptedOut, hasBase⟩
    exact ⟨⟨isClass, isTopLevel, isSuffixed, isPublic, notAbstract, notStatic, notGeneric,
      notOptedOut⟩, hasBase⟩

instance (suffix : String) (snapshot : Snapshot) (type : TypeSymbol) :
    Decidable (IsControllerType suffix snapshot type) :=
  decidable_of_iff _ classify_eq_controller_iff_isControllerType

/-- The types of a snapshot that are controllers, parts put together, in order of first
declaration. -/
def controllerTypes (suffix : String) (snapshot : Snapshot) : List MergedType :=
  (mergeParts snapshot.types).filter fun merged => IsControllerType suffix snapshot merged.type

/-- A type that is a controller is one of the snapshot. -/
theorem mem_controllerTypes {suffix : String} {snapshot : Snapshot} {merged : MergedType} :
    merged ∈ controllerTypes suffix snapshot ↔
      merged ∈ mergeParts snapshot.types ∧ IsControllerType suffix snapshot merged.type := by
  rw [controllerTypes, List.mem_filter, decide_eq_true_eq]

/-- The controllers that are found are those of the types that are controllers. -/
theorem discover_eq (suffix : String) (snapshot : Snapshot) :
    discover suffix snapshot = (controllerTypes suffix snapshot).map (controllerOf suffix) := by
  rw [discover, controllerTypes]
  refine congrArg _ (List.filter_congr fun merged _ => ?_)
  exact decide_eq_decide.mpr classify_eq_controller_iff_isControllerType

/-! ## What is known of a controller -/

/-- What is known of the controller that is found for a type of a snapshot. -/
structure Describes (suffix : String) (snapshot : Snapshot) (merged : MergedType)
    (controller : Controller) : Prop where
  /-- The controller has the type's name as that of its type. -/
  typeName : controller.typeName = merged.type.name
  /-- The controller is called like the type without the suffix. -/
  name : controller.typeName = controller.name ++ suffix
  /-- The controller has a name. -/
  named : controller.name ≠ ""
  /-- The controller is referred to by the qualified name of the type. -/
  reference : controller.qualifiedReference = merged.type.qualifiedName
  /-- The actions are the methods of all declarations of the type, in order, that are actions. -/
  actions : controller.actions =
    (((snapshot.types.filter fun part => part.qualifiedName = merged.type.qualifiedName).flatMap
      (·.methods)).filter isAction).map fun method =>
        { name := method.name
          controller := controller.typeName
          parameters := method.parameters.map fun p => ⟨p.name, p.typeName⟩
          returnType := method.returnType }

/-- In a namespace that has a name, or in none, the qualified name of a type that is nested in no
other is the reference to its controller. -/
theorem qualifiedReference_controllerOf {merged : MergedType} (suffix : String)
    (isTopLevel : merged.type.containingType = none)
    (named : merged.type.namespaceName ≠ some "") :
    (controllerOf suffix merged).qualifiedReference = merged.type.qualifiedName := by
  rw [TypeSymbol.qualifiedName, isTopLevel]
  simp only [controllerOf, Controller.ofType]
  cases space : merged.type.namespaceName with
  | none => rfl
  | some outer =>
    have nonempty : outer ≠ "" := fun empty => named (space.trans (congrArg some empty))
    have kept : (some outer).filter (fun name => decide (name ≠ "")) = some outer :=
      Option.filter_some_pos (decide_eq_true nonempty)
    rw [kept]
    rfl

/-- The controller of a type that is one is as described. -/
theorem describes_controllerOf {suffix : String} {snapshot : Snapshot} {merged : MergedType}
    (isController : merged ∈ controllerTypes suffix snapshot)
    (named : merged.type.namespaceName ≠ some "") :
    Describes suffix snapshot merged (controllerOf suffix merged) := by
  obtain ⟨mem, type⟩ := mem_controllerTypes.mp isController
  obtain ⟨stem, nonempty, name_eq⟩ := type.isSuffixed
  have stripped : (controllerOf suffix merged).name = stem := by
    change stripSuffix merged.type.name suffix = stem
    rw [name_eq, stripSuffix_append nonempty]
  refine ⟨rfl, ?_, ?_, qualifiedReference_controllerOf suffix type.isTopLevel named, ?_⟩
  · rw [stripped]
    exact name_eq
  · rw [stripped]
    exact nonempty
  · change (merged.type.methods.filter isAction).map (actionOf merged.type.name) = _
    rw [methods_of_mem_mergeParts mem]
    rfl

/-- The namespace of an entry has a name if those of all declarations have. -/
theorem namespaceName_ne_of_mem_mergeParts {parts : List TypeSymbol}
    (named : ∀ t ∈ parts, t.namespaceName ≠ some "") {merged : MergedType}
    (mem : merged ∈ mergeParts parts) : merged.type.namespaceName ≠ some "" := by
  obtain ⟨⟨part, declared, -, -, space⟩, -⟩ := mem_mergeParts mem
  rw [← space]
  exact named part declared

/-- One controller is found for each type that is one, in the order in which the types are declared
first, and it is as described. No two controllers are referred to by the same name. -/
theorem discover_describes {snapshot : Snapshot}
    (named : ∀ t ∈ snapshot.types, t.namespaceName ≠ some "") (suffix : String) :
    (mergeParts snapshot.types).map (fun merged => merged.type.qualifiedName) =
        (snapshot.types.map TypeSymbol.qualifiedName).eraseDups ∧
      List.Forall₂ (Describes suffix snapshot)
        ((mergeParts snapshot.types).filter fun merged =>
          IsControllerType suffix snapshot merged.type)
        (discover suffix snapshot) ∧
      ((discover suffix snapshot).map (·.qualifiedReference)).Nodup := by
  have described : ∀ merged ∈ controllerTypes suffix snapshot,
      Describes suffix snapshot merged (controllerOf suffix merged) := fun merged mem =>
    describes_controllerOf mem
      (namespaceName_ne_of_mem_mergeParts named (mem_controllerTypes.mp mem).1)
  refine ⟨map_qualifiedName_mergeParts snapshot.types, ?_, ?_⟩
  · rw [discover_eq, List.forall₂_map_right_iff]
    exact List.forall₂_same.mpr described
  · -- The references are qualified names of different entries.
    have references : (discover suffix snapshot).map (·.qualifiedReference) =
        (controllerTypes suffix snapshot).map fun merged => merged.type.qualifiedName := by
      rw [discover_eq, List.map_map]
      exact List.map_congr_left fun merged mem => (described merged mem).reference
    rw [references, List.Nodup, List.pairwise_map]
    exact (pairwise_mergeParts snapshot.types).sublist List.filter_sublist

/-- A controller whose two parts stand around another type, each with a method: it has the actions
of both parts and the place of the first. -/
theorem discover_describes_parts :
    let index : MethodSymbol := ⟨"Index", ["public"], [], [⟨"id", "int"⟩], some "string", false, 3⟩
    let first := { publicClass "HomeController" [] with
      namespaceName := some "App", methods := [index] }
    let other := { publicClass "AdminController" [] with attributes := ["Controller"] }
    let second := { first with
      attributes := ["Controller"]
      methods := [{ index with name := "About" }, { index with modifiers := ["private"] }] }
    let snapshot : Snapshot := ⟨[first, other, second], []⟩
    (∀ t ∈ snapshot.types, t.namespaceName ≠ some "") ∧
      (discover "Controller" snapshot).map
          (fun c => (c.name, c.qualifiedReference, c.actions.map (·.name))) =
        [("Home", "App.HomeController", ["Index", "About"]),
          ("Admin", "AdminController", [])] ∧
      List.Forall₂ (Describes "Controller" snapshot)
        ((mergeParts snapshot.types).filter fun merged =>
          IsControllerType "Controller" snapshot merged.type)
        (discover "Controller" snapshot) := by
  intro index first other second snapshot
  have named : ∀ t ∈ snapshot.types, t.namespaceName ≠ some "" := by decide +kernel
  exact ⟨named, by decide +kernel, (discover_describes named "Controller").2.1⟩

end TypedMvc.Controllers
