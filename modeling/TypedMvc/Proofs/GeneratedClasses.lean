import TypedMvc.Synthesis.Generate

/-!
# The classes of a generated unit

`Node.classes` lists the classes among a node and everything inside it, level by level
(`Node.classes_eq`). A class whose members are fields and properties holds no other class, so the
classes of every part that is generated can be written down (`classes_textMembersClass`,
`classes_viewsClass`, `classes_controllerPart`), and with them those of the whole unit:
`mem_allClasses_generate` says that they are the classes of the parts of the controllers and the
two classes of the project, however deep they are.
-/

namespace TypedMvc.Declaration.Node

/-! ## The classes inside a node -/

/-- Walking through a list is walking through its nodes one after the other. -/
theorem walkAll_eq_flatMap (nodes : List Node) : walkAll nodes = nodes.flatMap walk := by
  induction nodes with
  | nil => rw [walkAll, List.flatMap_nil]
  | cons node rest ih => rw [walkAll, List.flatMap_cons, ih]

/-- Walking through a node gives the node and then what is inside it. -/
theorem walk_eq (node : Node) : node.walk = node :: node.children.flatMap walk := by
  cases node with
  | mk content name modifiers attributes children =>
    rw [walk, walkAll_eq_flatMap]
    rfl

/-- Something is true of a node and everything inside it if it is true of the node and of what is
directly inside it and everything inside that. -/
theorem forall_mem_walk_iff {p : Node → Prop} {node : Node} :
    (∀ inner ∈ node.walk, p inner) ↔
      p node ∧ ∀ child ∈ node.children, ∀ inner ∈ child.walk, p inner := by
  rw [walk_eq, List.forall_mem_cons]
  refine and_congr_right fun _ => ?_
  simp only [List.mem_flatMap]
  exact ⟨fun all child mem inner inside => all inner ⟨child, mem, inside⟩,
    fun all inner ⟨child, mem, inside⟩ => all child mem inner inside⟩

/-- The classes among a node and everything inside it. -/
def classes (node : Node) : List Node := node.walk.filter fun n => n.kind == .classKind

/-- The classes of a node are the node itself, if it is one, and those of what is inside it. -/
theorem classes_eq (node : Node) :
    node.classes =
      (if node.kind = .classKind then [node] else []) ++ node.children.flatMap classes := by
  rw [classes, walk_eq, List.filter_cons, List.filter_flatMap]
  by_cases isClass : node.kind = .classKind
  · rw [if_pos isClass, if_pos (by simp [isClass])]
    rfl
  · rw [if_neg isClass, if_neg (by simp [isClass])]
    rfl

/-- The classes of a class are itself and those of what is inside it. -/
theorem classes_of_class {node : Node} (isClass : node.kind = .classKind) :
    node.classes = node :: node.children.flatMap classes := by
  rw [classes_eq, if_pos isClass]
  rfl

/-- A field or a property: no class, and nothing inside it. -/
structure IsLeaf (node : Node) : Prop where
  /-- The node is no class. -/
  notClass : node.kind ≠ .classKind
  /-- There is nothing inside the node. -/
  childless : node.children = []

/-- A field is a leaf. -/
theorem isLeaf_ofField (name type : String) (value : Expr) : (ofField name type value).IsLeaf :=
  ⟨nofun, rfl⟩

/-- A property is a leaf. -/
theorem isLeaf_ofProperty (name type : String) (getter : Expr) :
    (ofProperty name type getter).IsLeaf :=
  ⟨nofun, rfl⟩

/-- A leaf stays one with more modifiers. -/
theorem IsLeaf.withModifiers {node : Node} (leaf : node.IsLeaf) (modifiers : List Modifier) :
    (node.withModifiers modifiers).IsLeaf :=
  ⟨leaf.notClass, leaf.childless⟩

/-- There are no classes in a field or a property. -/
theorem IsLeaf.classes_eq_nil {node : Node} (leaf : node.IsLeaf) : node.classes = [] := by
  rw [classes_eq, if_neg leaf.notClass, leaf.childless]
  rfl

/-- There are no classes in fields and properties. -/
theorem flatMap_classes_of_leaves {nodes : List Node} (leaves : ∀ n ∈ nodes, n.IsLeaf) :
    nodes.flatMap classes = [] := by
  rw [List.flatMap_eq_nil_iff]
  exact fun n mem => (leaves n mem).classes_eq_nil

/-- A class with only fields and properties in it has no other class in it. -/
theorem classes_of_leaves {node : Node} (isClass : node.kind = .classKind)
    (leaves : ∀ n ∈ node.children, n.IsLeaf) : node.classes = [node] := by
  rw [classes_of_class isClass, flatMap_classes_of_leaves leaves]

end TypedMvc.Declaration.Node

namespace TypedMvc.Synthesis

open Declaration Model Naming

/-! ## The classes of the generated parts -/

/-- Fields that hold texts have nothing inside them. -/
theorem isLeaf_uniqueTextFields {pairs : List (String × String)} {modifiers : List Modifier}
    {reserved : List String} :
    ∀ node ∈ uniqueTextFields pairs modifiers reserved, node.IsLeaf := by
  intro node mem
  obtain ⟨pair, -, rfl⟩ := List.mem_map.mp mem
  exact (Node.isLeaf_ofField _ _ _).withModifiers _

/-- A field with an instance and the property by which it is reached have nothing inside them. -/
theorem isLeaf_singleton {className field property : String} :
    ∀ node ∈ singleton className field property, node.IsLeaf := by
  intro node mem
  rcases List.mem_cons.mp mem with rfl | mem
  · exact (Node.isLeaf_ofField _ _ _).withModifiers _
  · rw [List.mem_singleton.mp mem]
    exact (Node.isLeaf_ofProperty _ _ _).withModifiers _

/-- A class with a field for each name has no other class in it. -/
theorem classes_textMembersClass (className : String) (pairs : List (String × String))
    (binding : Binding) :
    (textMembersClass className pairs binding).classes =
      [textMembersClass className pairs binding] :=
  Node.classes_of_leaves rfl isLeaf_uniqueTextFields

/-- The class with the names of the views of a controller. -/
def viewNamesClass (controller : Controller) (views : List View) : Node :=
  textMembersClass viewNamesClassName
    ((ownedViews controller views).map fun view => (view.viewName, view.viewName)) .readOnly

/-- The fields with the paths of the views of a controller. -/
def viewPathFields (controller : Controller) (views : List View) : List Node :=
  uniqueTextFields ((ownedViews controller views).map fun view => (view.viewName, view.virtualPath))
    Binding.readOnly.modifiers reservedViewNames

/-- In the class of the views are the class with their names and the fields with their paths. -/
theorem children_viewsClass (controller : Controller) (views : List View) :
    (viewsClass controller views).children =
      singleton viewNamesClassName "s_ViewNames" "ViewNames" ++
        viewNamesClass controller views :: viewPathFields controller views := rfl

/-- The class of the views has the class with their names in it. -/
theorem classes_viewsClass (controller : Controller) (views : List View) :
    (viewsClass controller views).classes =
      [viewsClass controller views, viewNamesClass controller views] := by
  rw [Node.classes_of_class rfl, children_viewsClass, List.flatMap_append, List.flatMap_cons,
    Node.flatMap_classes_of_leaves isLeaf_singleton, viewNamesClass, classes_textMembersClass,
    viewPathFields, Node.flatMap_classes_of_leaves isLeaf_uniqueTextFields]
  rfl

/-- The members of a controller's part are those of the groups that it keeps. -/
theorem children_controllerPart (controller : Controller) (views : List View) :
    (controllerPart controller views).children =
      (if keepsGroup controller actionNamesGroup then
        actionNamesClass controller :: singleton actionNamesClassName "s_actions" "ActionNames"
      else []) ++
      (if keepsGroup controller actionConstantsGroup then [actionConstantsClass controller]
      else []) ++
      (if keepsGroup controller viewsGroup then
        viewsClass controller views :: singleton viewsClassName "s_views" "Views"
      else []) := rfl

/-- What is true of all nodes of a list is true of those that are kept of it. -/
theorem forall_mem_kept {p : Node → Prop} {nodes : List Node} (all : ∀ n ∈ nodes, p n)
    (keep : Bool) : ∀ n ∈ if keep then nodes else [], p n := by
  cases keep with
  | false => exact List.forall_mem_nil _
  | true => exact all

/-- What is true of the classes for actions and views, and of the fields and properties by which two
of them are reached, is true of all members of a controller's part. -/
theorem forall_children_controllerPart {p : Node → Prop} {controller : Controller}
    {views : List View} (actionNames : p (actionNamesClass controller))
    (reachNames : ∀ node ∈ singleton actionNamesClassName "s_actions" "ActionNames", p node)
    (actionConstants : p (actionConstantsClass controller))
    (viewMembers : p (viewsClass controller views))
    (reachViews : ∀ node ∈ singleton viewsClassName "s_views" "Views", p node) :
    ∀ child ∈ (controllerPart controller views).children, p child := by
  rw [children_controllerPart, List.forall_mem_append, List.forall_mem_append]
  exact ⟨⟨forall_mem_kept (List.forall_mem_cons.mpr ⟨actionNames, reachNames⟩) _,
    forall_mem_kept (List.forall_mem_singleton.mpr actionConstants) _⟩,
    forall_mem_kept (List.forall_mem_cons.mpr ⟨viewMembers, reachViews⟩) _⟩

/-- The classes of nodes that may be left out are left out with them. -/
theorem flatMap_classes_if (keep : Bool) (nodes : List Node) :
    (if keep then nodes else []).flatMap Node.classes =
      if keep then nodes.flatMap Node.classes else [] := by
  cases keep <;> rfl

/-- The part of a controller has the classes of the groups of members that it keeps in it. -/
theorem classes_controllerPart (controller : Controller) (views : List View) :
    (controllerPart controller views).classes =
      controllerPart controller views ::
        ((if keepsGroup controller actionNamesGroup then [actionNamesClass controller] else []) ++
          (if keepsGroup controller actionConstantsGroup then [actionConstantsClass controller]
            else []) ++
          (if keepsGroup controller viewsGroup then
            [viewsClass controller views, viewNamesClass controller views] else [])) := by
  have actionNames : (actionNamesClass controller).classes = [actionNamesClass controller] :=
    classes_textMembersClass _ _ _
  have actionConstants :
      (actionConstantsClass controller).classes = [actionConstantsClass controller] :=
    classes_textMembersClass _ _ _
  rw [Node.classes_of_class rfl, children_controllerPart, List.flatMap_append,
    List.flatMap_append, flatMap_classes_if, flatMap_classes_if, flatMap_classes_if,
    List.flatMap_cons, List.flatMap_cons, List.flatMap_cons, actionNames, actionConstants,
    classes_viewsClass, Node.flatMap_classes_of_leaves isLeaf_singleton,
    Node.flatMap_classes_of_leaves isLeaf_singleton]
  rfl

/-- The classes in the part of a controller are the part and the four classes for its actions and
views, as far as they are kept. -/
theorem mem_classes_controllerPart {controller : Controller} {views : List View} {node : Node}
    (mem : node ∈ (controllerPart controller views).classes) :
    node = controllerPart controller views ∨ node = actionNamesClass controller ∨
      node = actionConstantsClass controller ∨ node = viewsClass controller views ∨
      node = viewNamesClass controller views := by
  have kept (keep : Bool) (nodes : List Node) :
      node ∈ (if keep then nodes else []) → node ∈ nodes :=
    forall_mem_kept (fun _ mem => mem) keep node
  rw [classes_controllerPart, List.mem_cons, List.mem_append, List.mem_append] at mem
  rcases mem with self | (names | constants) | inViews
  · exact Or.inl self
  · exact Or.inr (Or.inl (List.mem_singleton.mp (kept _ _ names)))
  · exact Or.inr (Or.inr (Or.inl (List.mem_singleton.mp (kept _ _ constants))))
  · rcases List.mem_cons.mp (kept _ _ inViews) with paths | names
    · exact Or.inr (Or.inr (Or.inr (Or.inl paths)))
    · exact Or.inr (Or.inr (Or.inr (Or.inr (List.mem_singleton.mp names))))

/-- The class with a field for each controller has no other class in it. -/
theorem classes_rootClass (controllers : List Controller) (settings : Settings.Generation) :
    (rootClass controllers settings).classes = [rootClass controllers settings] := by
  refine Node.classes_of_leaves rfl fun node mem => ?_
  obtain ⟨controller, -, rfl⟩ := List.mem_map.mp mem
  exact (Node.isLeaf_ofField _ _ _).withModifiers _

/-- The class with a field for each static file has no other class in it. -/
theorem classes_linksClass (files : List StaticFile) (settings : Settings.Generation) :
    (linksClass files settings).classes = [linksClass files settings] :=
  Node.classes_of_leaves rfl isLeaf_uniqueTextFields

/-! ## The classes of the unit -/

/-- Declarations that are added to a group join those of all groups. -/
theorem mem_flatMap_addToGroup {name : String} {members : List Node}
    {groups : List (String × List Node)} {node : Node} :
    node ∈ (addToGroup name members groups).flatMap Prod.snd ↔
      node ∈ groups.flatMap Prod.snd ∨ node ∈ members := by
  induction groups with
  | nil => simp [addToGroup]
  | cons group rest ih =>
    obtain ⟨other, known⟩ := group
    rw [addToGroup]
    split
    · simp only [List.flatMap_cons, List.mem_append]
      exact or_right_comm
    · rw [List.flatMap_cons, List.mem_append, ih, List.flatMap_cons, List.mem_append, or_assoc]

/-- The declarations in the groups of the controllers are the parts of the controllers. -/
theorem mem_flatMap_controllerGroups {controllers : List Controller} {views : List View}
    {node : Node} :
    node ∈ (controllerGroups controllers views).flatMap Prod.snd ↔
      ∃ controller ∈ controllers, node = controllerPart controller views := by
  -- What is in the groups at the start stays there.
  have step : ∀ groups : List (String × List Node),
      node ∈ (controllers.foldl (fun groups controller => addToGroup (namespaceOf controller)
          [controllerPart controller views] groups) groups).flatMap Prod.snd ↔
        node ∈ groups.flatMap Prod.snd ∨
          ∃ controller ∈ controllers, node = controllerPart controller views := by
    induction controllers with
    | nil => simp
    | cons controller rest ih =>
      intro groups
      rw [List.foldl_cons, ih, mem_flatMap_addToGroup, List.mem_singleton, or_assoc]
      simp only [List.mem_cons, exists_eq_or_imp]
  rw [controllerGroups, step]
  simp

/-- Generating succeeds if there is no collision, and then gives a namespace for each group. -/
theorem generate_eq_ok_iff {controllers : List Controller} {views : List View}
    {files : List StaticFile} {settings : Settings.Generation} {unit : CompilationUnit} :
    generate controllers views files settings = .ok unit ↔
      collision? controllers settings = none ∧
        ⟨usings, (addToGroup settings.namespaceName
          [rootClass controllers settings, linksClass files settings]
          (controllerGroups controllers views)).map fun group =>
            (Node.ofNamespace group.1).withChildren group.2⟩ = unit := by
  unfold generate
  cases collision? controllers settings with
  | none => simp
  | some collision => simp

/-- The classes of a generated unit, however deep, are those of the parts of the controllers and
the two classes of the project. -/
theorem mem_allClasses_generate {controllers : List Controller} {views : List View}
    {files : List StaticFile} {settings : Settings.Generation} {unit : CompilationUnit}
    (generated : generate controllers views files settings = .ok unit) {node : Node} :
    node ∈ unit.allClasses ↔
      (∃ controller ∈ controllers, node ∈ (controllerPart controller views).classes) ∨
        node = rootClass controllers settings ∨ node = linksClass files settings := by
  obtain ⟨-, rfl⟩ := generate_eq_ok_iff.mp generated
  have spaces : ∀ groups : List (String × List Node),
      ((groups.map fun group => (Node.ofNamespace group.1).withChildren group.2).flatMap
        Node.classes) = (groups.flatMap Prod.snd).flatMap Node.classes := by
    intro groups
    rw [List.flatMap_map, List.flatMap_assoc]
    congr 1
    funext group
    -- A namespace is no class itself, so only what is inside it counts.
    rw [Node.classes_eq, if_neg (by exact nofun)]
    rfl
  rw [CompilationUnit.allClasses, List.filter_flatMap]
  change node ∈ List.flatMap Node.classes _ ↔ _
  rw [spaces, List.mem_flatMap]
  simp only [mem_flatMap_addToGroup, mem_flatMap_controllerGroups, List.mem_cons,
    List.not_mem_nil, or_false]
  constructor
  · rintro ⟨_, ⟨controller, mem, rfl⟩ | rfl | rfl, inside⟩
    · exact Or.inl ⟨controller, mem, inside⟩
    · rw [classes_rootClass, List.mem_singleton] at inside
      exact Or.inr (Or.inl inside)
    · rw [classes_linksClass, List.mem_singleton] at inside
      exact Or.inr (Or.inr inside)
  · rintro (⟨controller, mem, inside⟩ | rfl | rfl)
    · exact ⟨_, Or.inl ⟨controller, mem, rfl⟩, inside⟩
    · exact ⟨_, Or.inr (Or.inl rfl), by rw [classes_rootClass]; exact List.mem_singleton_self _⟩
    · exact ⟨_, Or.inr (Or.inr rfl), by rw [classes_linksClass]; exact List.mem_singleton_self _⟩

end TypedMvc.Synthesis
