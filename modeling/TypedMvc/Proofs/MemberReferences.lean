import TypedMvc.Proofs.MemberGroups

/-!
# Members that refer to each other

A property that is generated gives a field beside it, and the field holds an instance of a class
beside it. All three are in one group of members, which is added to a controller as a whole or not
at all, so no reference is left without what it refers to. `Resolved` says of some declarations that
what they refer to is among them. It is kept where groups are put together or left out
(`Resolved.append`, `Resolved.kept`), and so it is shown of each class from the inside
(`isResolved_controllerPart`). `controllerPart_groups` adds which groups there are.
-/

namespace TypedMvc.Declaration

/-! ## References among declarations -/

/-- What a declaration refers to is among some others: a property gives a field of its type, and a
new instance that a field holds is of the field's type, which is a class. -/
structure Node.RefersAmong (siblings : List Node) (node : Node) : Prop where
  /-- A property gives a field that has the property's type. -/
  getter : ∀ type getter, node.content = .ofProperty type getter →
    ∃ field ∈ siblings, getter = .member field.name ∧
      ∃ value, field.content = .ofField type value
  /-- A new instance has the field's type, and that is a class. -/
  created : ∀ type className, node.content = .ofField type (.create className) →
    className = type ∧ ∃ sibling ∈ siblings, sibling.kind = .classKind ∧ sibling.name = className

/-- What some declarations refer to is among them. -/
def Resolved (nodes : List Node) : Prop := ∀ node ∈ nodes, node.RefersAmong nodes

/-- What is among some declarations is among more. -/
theorem Node.RefersAmong.mono {siblings more : List Node} {node : Node}
    (refers : node.RefersAmong siblings) (subset : siblings ⊆ more) : node.RefersAmong more where
  getter type getter isProperty := by
    obtain ⟨field, mem, names, typed⟩ := refers.getter type getter isProperty
    exact ⟨field, subset mem, names, typed⟩
  created type className isField := by
    obtain ⟨same, sibling, mem, isClass⟩ := refers.created type className isField
    exact ⟨same, sibling, subset mem, isClass⟩

/-- A class refers to nothing. -/
theorem Node.refersAmong_of_class {node : Node} (isClass : node.content = .ofClass)
    (siblings : List Node) : node.RefersAmong siblings where
  getter type getter isProperty := by rw [isClass] at isProperty; cases isProperty
  created type className isField := by rw [isClass] at isField; cases isField

/-- A field that holds a text refers to nothing. -/
theorem Node.refersAmong_of_text {node : Node} {type value : String}
    (holds : node.content = .ofField type (.text value)) (siblings : List Node) :
    node.RefersAmong siblings where
  getter type getter isProperty := by rw [holds] at isProperty; cases isProperty
  created type className isField := by rw [holds] at isField; cases isField

/-- What is resolved apart is resolved together. -/
theorem Resolved.append {nodes more : List Node} (resolved : Resolved nodes)
    (resolvedMore : Resolved more) : Resolved (nodes ++ more) := by
  intro node mem
  rcases List.mem_append.mp mem with inFront | behind
  · exact (resolved node inFront).mono (List.subset_append_left nodes more)
  · exact (resolvedMore node behind).mono (List.subset_append_right nodes more)

/-- The order does not matter. -/
theorem Resolved.perm {nodes others : List Node} (resolved : Resolved nodes)
    (perm : nodes.Perm others) : Resolved others :=
  fun node mem => (resolved node (perm.mem_iff.mpr mem)).mono perm.subset

/-- Declarations whose references are resolved may be left out together. -/
theorem Resolved.kept {nodes : List Node} (resolved : Resolved nodes) (keep : Bool) :
    Resolved (if keep then nodes else []) := by
  cases keep with
  | false => exact List.forall_mem_nil _
  | true => exact resolved

/-- Everything in a declaration, however deep, refers to what is beside it. -/
def Node.IsResolved (node : Node) : Prop := ∀ inner ∈ node.walk, Resolved inner.children

/-- Everything in a declaration refers to what is beside it if this is so of what is directly inside
and of everything in that. -/
theorem Node.isResolved_iff {node : Node} :
    node.IsResolved ↔
      Resolved node.children ∧ ∀ child ∈ node.children, child.IsResolved :=
  forall_mem_walk_iff

/-- There is nothing in a field or a property. -/
theorem Node.IsLeaf.isResolved {node : Node} (leaf : node.IsLeaf) : node.IsResolved := by
  rw [isResolved_iff, leaf.childless]
  exact ⟨List.forall_mem_nil _, List.forall_mem_nil _⟩

end TypedMvc.Declaration

namespace TypedMvc.Synthesis

open Declaration Model Naming

/-! ## The generated parts -/

/-- Fields for texts refer to nothing. -/
theorem resolved_uniqueTextFields (pairs : List (String × String)) (modifiers : List Modifier)
    (reserved : List String) : Resolved (uniqueTextFields pairs modifiers reserved) := by
  intro node mem
  obtain ⟨pair, -, rfl⟩ := List.mem_map.mp mem
  exact Node.refersAmong_of_text rfl _

/-- A field with an instance and the property by which it is reached refer to each other and to the
class beside them. -/
theorem resolved_cons_singleton {inner : Node} (isClass : inner.content = .ofClass)
    (field property : String) :
    Resolved (inner :: singleton inner.name field property) := by
  have kind : inner.kind = .classKind := by rw [Node.kind, isClass]
  intro node mem
  rcases List.mem_cons.mp mem with rfl | mem
  · exact Node.refersAmong_of_class isClass _
  rcases List.mem_cons.mp mem with rfl | mem
  · -- The field holds an instance of the class.
    refine ⟨nofun, fun type className isField => ?_⟩
    obtain ⟨rfl, ⟨⟩⟩ := Content.ofField.inj isField
    exact ⟨rfl, inner, List.mem_cons_self, kind, rfl⟩
  · -- The property gives the field.
    rw [List.mem_singleton.mp mem]
    refine ⟨fun type getter isProperty => ?_, nofun⟩
    obtain ⟨rfl, rfl⟩ := Content.ofProperty.inj isProperty
    exact ⟨_, List.mem_cons_of_mem _ List.mem_cons_self, rfl, _, rfl⟩

/-- In a class with a field for each text everything refers to what is beside it. -/
theorem isResolved_textMembersClass (className : String) (pairs : List (String × String))
    (binding : Binding) : (textMembersClass className pairs binding).IsResolved :=
  Node.isResolved_iff.mpr ⟨resolved_uniqueTextFields _ _ _,
    fun child mem => (isLeaf_uniqueTextFields child mem).isResolved⟩

/-- A field with an instance and the property by which it is reached have nothing inside. -/
theorem isResolved_singleton (className field property : String) :
    ∀ node ∈ singleton className field property, node.IsResolved :=
  fun node mem => (isLeaf_singleton node mem).isResolved

/-- In the class of the views everything refers to what is beside it. -/
theorem isResolved_viewsClass (controller : Controller) (views : List View) :
    (viewsClass controller views).IsResolved := by
  have names : Resolved (viewNamesClass controller views ::
      singleton viewNamesClassName "s_ViewNames" "ViewNames") := resolved_cons_singleton rfl _ _
  have paths : Resolved (viewPathFields controller views) := resolved_uniqueTextFields _ _ _
  rw [Node.isResolved_iff, children_viewsClass]
  constructor
  · -- Here the class comes behind its field and property.
    exact (names.append paths).perm List.perm_middle.symm
  · rw [List.forall_mem_append, List.forall_mem_cons]
    exact ⟨isResolved_singleton _ _ _, isResolved_textMembersClass _ _ _,
      fun child mem => (isLeaf_uniqueTextFields child mem).isResolved⟩

/-- In the part of a controller everything refers to what is beside it. -/
theorem isResolved_controllerPart (controller : Controller) (views : List View) :
    (controllerPart controller views).IsResolved := by
  have actionNames : Resolved (actionNamesClass controller ::
      singleton actionNamesClassName "s_actions" "ActionNames") := resolved_cons_singleton rfl _ _
  have actionConstants : Resolved [actionConstantsClass controller] := by
    rw [Resolved, List.forall_mem_singleton]
    exact Node.refersAmong_of_class rfl _
  have viewMembers : Resolved (viewsClass controller views ::
      singleton viewsClassName "s_views" "Views") := resolved_cons_singleton rfl _ _
  rw [Node.isResolved_iff]
  constructor
  · rw [children_controllerPart]
    exact ((actionNames.kept _).append (actionConstants.kept _)).append (viewMembers.kept _)
  · exact forall_children_controllerPart (isResolved_textMembersClass _ _ _)
      (isResolved_singleton _ _ _) (isResolved_textMembersClass _ _ _)
      (isResolved_viewsClass controller views) (isResolved_singleton _ _ _)

/-! ## The groups -/

/-- The groups of members that are kept, with kinds, are those in which no action has a name. -/
theorem kinds_eq_of_actions (controller : Controller) (views : List View) :
    ((controllerPart controller views).children.map fun child => (child.name, child.kind)) =
      (memberKinds.filter fun group =>
        ∀ action ∈ controller.actions, action.name ∉ group.map Prod.fst).flatten := by
  have known : ∀ group ∈ memberKinds, group.map Prod.fst ∈ memberGroups := by decide
  rw [kinds_controllerPart]
  refine congrArg List.flatten (List.filter_congr fun group mem => ?_)
  rw [Bool.eq_iff_iff, keepsGroup_iff (known group mem), decide_eq_true_eq]

/-- Each of the three groups of members is in the part of a controller as a whole and in order if no
action has a name of the group, and else nothing of it is. The members that are reported as shadowed
are those that are called like actions. However deep in the part, what a declaration refers to is
beside it. -/
theorem controllerPart_groups (controller : Controller) (views : List View) :
    let part := controllerPart controller views
    (part.children.map fun child => (child.name, child.kind)) =
        (memberKinds.filter fun group =>
          ∀ action ∈ controller.actions, action.name ∉ group.map Prod.fst).flatten ∧
      (∀ group ∈ memberGroups,
        ((∀ action ∈ controller.actions, action.name ∉ group) →
          group <:+: part.children.map Node.name) ∧
        ((∃ action ∈ controller.actions, action.name ∈ group) →
          ∀ child ∈ part.children, child.name ∉ group)) ∧
      (∀ name, name ∈ shadowedMembers controller ↔
        name ∈ memberGroups.flatten ∧ ∃ action ∈ controller.actions, action.name = name) ∧
      (shadowedMembers controller).Sublist memberGroups.flatten ∧
      ∀ node ∈ part.walk, ∀ child ∈ node.children, child.RefersAmong node.children := by
  intro part
  refine ⟨kinds_eq_of_actions controller views, fun group known => ⟨fun free => ?_, ?_⟩,
    fun name => mem_shadowedMembers, List.filter_sublist,
    isResolved_controllerPart controller views⟩
  · rw [names_controllerPart]
    have kept : group ∈ memberGroups.filter (keepsGroup controller) :=
      List.mem_filter.mpr ⟨known, (keepsGroup_iff known).mpr free⟩
    exact List.infix_of_mem_flatten kept
  · rintro ⟨action, mem, taken⟩ child inPart isMember
    obtain ⟨other, knownOther, inOther, free⟩ :=
      exists_member_named_iff.mp ⟨child, inPart, rfl⟩
    -- The child is of a group that is kept, and the group of the action is not.
    obtain rfl := eq_of_mem_groups known knownOther isMember inOther
    exact free action mem taken

end TypedMvc.Synthesis
