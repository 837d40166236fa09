import TypedMvc.Proofs.ClassMembers
import TypedMvc.Proofs.Convention
import TypedMvc.Proofs.Inheritance

/-!
# Generated members beside those of the user

The part that is generated for a controller is a part of the user's own class, so a member with the
name of something that the class declares already would not compile. A group of members is left out
if one of its names is that of an action (`keepsGroup_iff`). Actions are all that a controller
knows of its class: `memberNames_controllerPart` says which names the members have, and with it
that they are never those of actions. Methods that are no actions, nested types and the type itself
do not count, and `members_clash_with_user_class` is a class that the members clash with in all
three ways.
-/

namespace TypedMvc.Synthesis

open Controllers Declaration Model Symbols

/-- The members that are shadowed are those of any group that are called like an action. -/
theorem mem_shadowedMembers {controller : Controller} {name : String} :
    name ∈ shadowedMembers controller ↔
      name ∈ memberGroups.flatten ∧ ∃ action ∈ controller.actions, action.name = name := by
  rw [shadowedMembers, List.mem_filter, hasAction, List.any_eq_true]
  simp only [beq_iff_eq]

/-- A group of members is kept exactly if no action has a name of the group. -/
theorem keepsGroup_iff {controller : Controller} {group : List String}
    (known : group ∈ memberGroups) :
    keepsGroup controller group = true ↔
      ∀ action ∈ controller.actions, action.name ∉ group := by
  rw [keepsGroup, Bool.not_eq_true', List.any_eq_false]
  simp only [List.contains_iff_mem]
  constructor
  · intro free action mem isMember
    exact free action.name isMember
      (mem_shadowedMembers.mpr ⟨List.mem_flatten_of_mem known isMember, action, mem, rfl⟩)
  · intro free member isMember isShadowed
    obtain ⟨-, action, mem, rfl⟩ := mem_shadowedMembers.mp isShadowed
    exact free action mem isMember

/-- The groups of members have no name in common. -/
theorem eq_of_mem_groups {group other : List String} (known : group ∈ memberGroups)
    (knownOther : other ∈ memberGroups) {name : String} (mem : name ∈ group)
    (memOther : name ∈ other) : group = other := by
  have apart : ∀ group ∈ memberGroups, ∀ other ∈ memberGroups, ∀ name ∈ group,
      name ∈ other → group = other := by decide
  exact apart group known other knownOther name mem memOther

/-- The actions of a controller are called like the methods of its type that are actions. -/
theorem forall_actions_controllerOf {suffix : String} {merged : MergedType}
    {p : String → Prop} :
    (∀ action ∈ (controllerOf suffix merged).actions, p action.name) ↔
      ∀ method ∈ merged.type.methods, isAction method = true → p method.name := by
  have actions : (controllerOf suffix merged).actions =
      (merged.type.methods.filter isAction).map (actionOf merged.type.name) := rfl
  rw [actions, List.forall_mem_map]
  simp only [List.mem_filter, and_imp]
  rfl

/-- The members of a controller's part are called like the groups in which no action has a name. -/
theorem exists_member_named_iff {controller : Controller} {views : List View} {name : String} :
    (∃ child ∈ (controllerPart controller views).children, child.name = name) ↔
      ∃ group ∈ memberGroups, name ∈ group ∧
        ∀ action ∈ controller.actions, action.name ∉ group := by
  rw [← List.mem_map, names_controllerPart, List.mem_flatten]
  constructor
  · rintro ⟨group, kept, mem⟩
    obtain ⟨known, keeps⟩ := List.mem_filter.mp kept
    exact ⟨group, known, mem, (keepsGroup_iff known).mp keeps⟩
  · rintro ⟨group, known, mem, free⟩
    exact ⟨group, List.mem_filter.mpr ⟨known, (keepsGroup_iff known).mpr free⟩, mem⟩

/-- Which names the generated members of a controller have, whatever the views: those of the groups
in which no method that is an action has a name. So no member is called like an action, and one
that is called like the type itself ends with the suffix of controllers, which no member does if
this is the usual one. -/
theorem memberNames_controllerPart {suffix : String} {snapshot : Snapshot} {merged : MergedType}
    (mem : merged ∈ mergeParts snapshot.types)
    (shape : classify suffix snapshot merged.type = .controller) (views : List View) :
    let controller := controllerOf suffix merged
    let members := (controllerPart controller views).children
    controller ∈ discover suffix snapshot ∧
      (∀ name, (∃ child ∈ members, child.name = name) ↔
        ∃ group ∈ memberGroups, name ∈ group ∧
          ∀ method ∈ merged.type.methods, isAction method = true → method.name ∉ group) ∧
      (∀ method ∈ merged.type.methods, isAction method = true →
        ∀ child ∈ members, child.name ≠ method.name) ∧
      (∀ child ∈ members, child.name = merged.type.name →
        hasProperSuffix child.name suffix = true) ∧
      (suffix = "Controller" → ∀ child ∈ members, child.name ≠ merged.type.name) := by
  intro controller members
  have found : controller ∈ discover suffix snapshot :=
    List.mem_map_of_mem (List.mem_filter.mpr ⟨mem, decide_eq_true shape⟩)
  have names : ∀ name, (∃ child ∈ members, child.name = name) ↔
      ∃ group ∈ memberGroups, name ∈ group ∧
        ∀ method ∈ merged.type.methods, isAction method = true → method.name ∉ group := by
    intro name
    have free : ∀ group : List String, (∀ action ∈ controller.actions, action.name ∉ group) ↔
        ∀ method ∈ merged.type.methods, isAction method = true → method.name ∉ group :=
      fun group => forall_actions_controllerOf (p := fun action => action ∉ group)
    rw [exists_member_named_iff]
    simp only [free]
  have suffixed : ∀ child ∈ members, child.name = merged.type.name →
      hasProperSuffix child.name suffix = true := by
    intro child _ same
    rw [same]
    exact (classify_eq_controller_iff.mp shape).1.2.2.1
  refine ⟨found, names, fun method declared action child inPart same => ?_, suffixed, ?_⟩
  · obtain ⟨group, -, isMember, free⟩ := (names method.name).mp ⟨child, inPart, same⟩
    exact free method declared action isMember
  · rintro rfl child inPart same
    obtain ⟨group, known, isMember, -⟩ := (names child.name).mp ⟨child, inPart, rfl⟩
    -- The type has the suffix, and no name of a member has the usual one.
    have usual : ∀ name ∈ memberGroups.flatten, hasProperSuffix name "Controller" = false := by
      decide +kernel
    have unsuffixed := usual child.name (List.mem_flatten_of_mem known isMember)
    rw [suffixed child inPart same] at unsuffixed
    exact absurd unsuffixed (by decide)

/-- A method of which only the name and the modifiers matter. -/
def methodOf (name : String) (modifiers : List String) : MethodSymbol where
  name
  modifiers
  attributes := []
  parameters := []
  returnType := none
  isGeneric := false
  line := 1

/-- A controller with an action that is called like a member for the names of the actions, and with
a static method that is called like another one: the members for the views and the constants are
left, and none of them has the name of the action. -/
theorem memberNames_shadowed :
    let home := { publicClass "HomeController" [] with
      attributes := ["Controller"],
      methods := [methodOf "ActionNames" ["public"], methodOf "s_actions" ["public", "static"]] }
    let snapshot : Snapshot := ⟨[home], []⟩
    let merged := MergedType.ofPart home
    let members := (controllerPart (controllerOf "Controller" merged) []).children
    members.map Node.name = ["ActionNameConstants", "ViewsClass", "s_views", "Views"] ∧
      merged ∈ mergeParts snapshot.types ∧
      classify "Controller" snapshot merged.type = .controller ∧
      ∀ child ∈ members, child.name ≠ "ActionNames" ∧ child.name ≠ "HomeController" := by
  intro home snapshot merged members
  have mem : merged ∈ mergeParts snapshot.types := List.mem_singleton_self _
  have shape : classify "Controller" snapshot merged.type = .controller := by decide +kernel
  obtain ⟨-, -, actions, -, own⟩ := memberNames_controllerPart mem shape []
  exact ⟨by decide +kernel, mem, shape, fun child inPart =>
    ⟨actions (methodOf "ActionNames" ["public"]) List.mem_cons_self (by decide) child inPart,
      own rfl child inPart⟩⟩

/-- A class that is found as a controller and clashes with its generated members, whatever the
views: one is called like a private method, one like a nested type, and one like the class
itself. -/
theorem members_clash_with_user_class :
    let method := methodOf "Views" ["private"]
    let user := { publicClass "ViewsClass" [] with
      attributes := ["Controller"], modifiers := ["public", "partial"], methods := [method] }
    let nested := { publicClass "ActionNamesClass" [] with containingType := some user.name }
    let controller := controllerOf "Class" (.ofPart user)
    mergeParts [user, nested] = [.ofPart user, .ofPart nested] ∧
      discover "Class" ⟨[user, nested], []⟩ = [controller] ∧
      ∀ views, ∀ name ∈ [method.name, nested.name, user.name],
        ∃ child ∈ (controllerPart controller views).children, child.name = name := by
  intro method user nested controller
  refine ⟨by decide +kernel, by decide +kernel, fun views name mem => ?_⟩
  rw [exists_member_named_iff]
  revert name
  decide +kernel

end TypedMvc.Synthesis
