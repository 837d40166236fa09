import TypedMvc.Proofs.ViewOwnership

/-!
# The texts that generated fields hold

A generated unit holds texts in the fields for the actions, views and files of a project. Of those
that have one identifier only the first gets a field (`IsFirst`), and some get none because a group
of members is left out or their identifier is taken. `HoldsText` says this of each source of texts,
and `mem_texts_generate` that a unit holds these texts and no others.
-/

namespace TypedMvc.Declaration

namespace Node

variable {node : Node}

/-- The texts that fields hold among a node and everything inside it. -/
def texts (node : Node) : List String := node.walk.filterMap text?

/-- The texts of a node are its own one, if it holds one, and those of what is inside it. -/
theorem texts_eq (node : Node) : node.texts = node.text?.toList ++ node.children.flatMap texts := by
  have inside : (node.children.flatMap walk).filterMap text? = node.children.flatMap texts :=
    List.filterMap_flatMap
  rw [texts, walk_eq, List.filterMap_cons, inside]
  cases node.text? <;> rfl

/-- A class or a namespace has the texts of what is inside it. -/
theorem texts_of_standsApart (apart : node.kind.standsApart = true) :
    node.texts = node.children.flatMap texts := by
  have own : node.text? = none := by
    obtain ⟨content, name, modifiers, attributes, children⟩ := node
    cases content with
    | ofNamespace => rfl
    | ofClass => rfl
    | ofField type value => cases apart
    | ofProperty type getter => cases apart
  rw [texts_eq, own]
  rfl

end Node

/-- The texts that the fields of a unit hold. -/
def CompilationUnit.texts (unit : CompilationUnit) : List String := unit.members.flatMap Node.texts

end TypedMvc.Declaration

namespace TypedMvc.Synthesis

open Declaration Model Naming

variable {controller : Controller} {controllers : List Controller} {views : List View}
  {files : List StaticFile} {settings : Settings.Generation} {text : String}

/-! ## The texts of the generated parts -/

/-- Fields for some things hold the texts of the first ones of their identifiers, unless these are
taken. -/
theorem mem_texts_uniqueTextFields {α : Type} {name value : α → String} {items : List α}
    {modifiers : List Modifier} {taken : List String} :
    text ∈ (uniqueTextFields (items.map fun item => (name item, value item)) modifiers
        taken).flatMap Node.texts ↔
      ∃ item, IsFirst name items item ∧ memberIdentifier (name item) ∉ taken ∧
        text = value item := by
  have single (ident held : String) :
      ((Node.ofText ident held).withModifiers modifiers).texts = [held] := by
    rw [Node.texts_eq]
    rfl
  rw [List.mem_flatMap]
  constructor
  · rintro ⟨_, isField, held⟩
    obtain ⟨item, isFirst, free, rfl⟩ := mem_uniqueTextFields.mp isField
    rw [single, List.mem_singleton] at held
    exact ⟨item, isFirst, free, held⟩
  · rintro ⟨item, isFirst, free, rfl⟩
    refine ⟨_, mem_uniqueTextFields.mpr ⟨item, isFirst, free, rfl⟩, ?_⟩
    rw [single]
    exact List.mem_singleton_self _

/-- A class with a field for each of some things holds the texts of their fields. -/
theorem mem_texts_textMembersClass {α : Type} {name value : α → String} {items : List α}
    {className : String} {binding : Binding} :
    text ∈ (textMembersClass className (items.map fun item => (name item, value item))
        binding).texts ↔
      ∃ item, IsFirst name items item ∧ memberIdentifier (name item) ≠ className ∧
        text = value item := by
  rw [Node.texts_of_standsApart rfl]
  refine mem_texts_uniqueTextFields.trans ?_
  simp only [List.mem_singleton]

/-- A field with an instance and the property by which it is reached hold no texts. -/
theorem flatMap_texts_singleton (className field property : String) :
    (singleton className field property).flatMap Node.texts = [] := by
  rw [singleton, List.flatMap_cons, List.flatMap_singleton, Node.texts_eq, Node.texts_eq]
  rfl

/-- The class of the views holds the names and the paths of the views that get fields. -/
theorem mem_texts_viewsClass :
    text ∈ (viewsClass controller views).texts ↔
      ∃ view, IsFirst View.viewName (ownedViews controller views) view ∧
        (text = view.viewName ∨ text = view.virtualPath) := by
  -- No view that can have a field has an identifier that is taken.
  have free {view : View} (isFirst : IsFirst View.viewName (ownedViews controller views) view) :
      memberIdentifier view.viewName ∉ reservedViewNames :=
    (mem_ownedViews.mp (List.mem_of_find?_eq_some isFirst)).2.2
  have names : text ∈ (viewNamesClass controller views).texts ↔
      ∃ view, IsFirst View.viewName (ownedViews controller views) view ∧ text = view.viewName := by
    refine mem_texts_textMembersClass.trans (exists_congr fun view => ?_)
    refine and_congr_right fun isFirst => and_iff_right fun taken => free isFirst ?_
    rw [taken]
    decide
  have paths : text ∈ (viewPathFields controller views).flatMap Node.texts ↔
      ∃ view, IsFirst View.viewName (ownedViews controller views) view ∧
        text = view.virtualPath := by
    refine mem_texts_uniqueTextFields.trans (exists_congr fun view => ?_)
    exact and_congr_right fun isFirst => and_iff_right (free isFirst)
  rw [Node.texts_of_standsApart rfl, children_viewsClass, List.flatMap_append,
    flatMap_texts_singleton, List.nil_append, List.flatMap_cons, List.mem_append, names, paths,
    ← exists_or]
  simp only [and_or_left]

/-- What is in some nodes that may be left out is in them if they are not. -/
theorem mem_texts_kept {keep : Bool} {nodes : List Node} :
    text ∈ (if keep then nodes else []).flatMap Node.texts ↔
      keep = true ∧ text ∈ nodes.flatMap Node.texts := by
  cases keep <;> simp

/-- The part of a controller holds what the classes for its actions and views hold, as far as they
are kept. -/
theorem mem_texts_controllerPart :
    text ∈ (controllerPart controller views).texts ↔
      (keepsGroup controller actionNamesGroup = true ∧
          text ∈ (actionNamesClass controller).texts) ∨
        (keepsGroup controller actionConstantsGroup = true ∧
          text ∈ (actionConstantsClass controller).texts) ∨
        (keepsGroup controller viewsGroup = true ∧
          text ∈ (viewsClass controller views).texts) := by
  rw [Node.texts_of_standsApart rfl, children_controllerPart, List.flatMap_append,
    List.flatMap_append, List.mem_append, List.mem_append, mem_texts_kept, mem_texts_kept,
    mem_texts_kept, List.flatMap_cons, List.flatMap_cons, List.flatMap_cons, List.flatMap_nil,
    flatMap_texts_singleton, flatMap_texts_singleton, List.append_nil, List.append_nil,
    List.append_nil, or_assoc]

/-- The class with a field for each controller holds no texts. -/
theorem texts_rootClass (controllers : List Controller) (settings : Settings.Generation) :
    (rootClass controllers settings).texts = [] := by
  rw [Node.texts_of_standsApart rfl, List.flatMap_eq_nil_iff]
  intro node mem
  obtain ⟨controller, -, rfl⟩ := List.mem_map.mp mem
  rw [Node.texts_eq]
  rfl

/-- The class with a field for each static file holds the paths of the files that get a field. -/
theorem mem_texts_linksClass :
    text ∈ (linksClass files settings).texts ↔
      ∃ file, IsFirst StaticFile.fileName files file ∧
        memberIdentifier file.fileName ≠ settings.linksClass ∧ text = file.urlPath := by
  rw [Node.texts_of_standsApart rfl]
  refine mem_texts_uniqueTextFields.trans ?_
  simp only [List.mem_singleton]

/-! ## The texts of the unit -/

/-- A text that a field of a generated unit holds, by what the field is for. -/
inductive HoldsText (controllers : List Controller) (views : List View) (files : List StaticFile)
    (settings : Settings.Generation) : String → Prop where
  /-- The name of an action, in the class for the names of the actions. -/
  | action {controller : Controller} {name : String} (mem : controller ∈ controllers)
      (keeps : keepsGroup controller actionNamesGroup = true)
      (isFirst : IsFirst id controller.uniqueActionNames name)
      (free : memberIdentifier name ≠ actionNamesClassName) :
      HoldsText controllers views files settings name
  /-- The name of an action, in the class for the same names as constants. -/
  | constant {controller : Controller} {name : String} (mem : controller ∈ controllers)
      (keeps : keepsGroup controller actionConstantsGroup = true)
      (isFirst : IsFirst id controller.uniqueActionNames name)
      (free : memberIdentifier name ≠ actionConstantsClassName) :
      HoldsText controllers views files settings name
  /-- The name of a view. -/
  | viewName {controller : Controller} {view : View} (mem : controller ∈ controllers)
      (shows : showsView views view controller = true) :
      HoldsText controllers views files settings view.viewName
  /-- The path of a view. -/
  | viewPath {controller : Controller} {view : View} (mem : controller ∈ controllers)
      (shows : showsView views view controller = true) :
      HoldsText controllers views files settings view.virtualPath
  /-- The path of a static file. -/
  | file {file : StaticFile} (isFirst : IsFirst StaticFile.fileName files file)
      (free : memberIdentifier file.fileName ≠ settings.linksClass) :
      HoldsText controllers views files settings file.urlPath

/-- A generated unit holds the texts of the parts of its controllers and of its static files. -/
theorem mem_texts_unit {unit : CompilationUnit}
    (generated : generate controllers views files settings = .ok unit) :
    text ∈ unit.texts ↔
      (∃ controller ∈ controllers, text ∈ (controllerPart controller views).texts) ∨
        text ∈ (linksClass files settings).texts := by
  obtain ⟨-, rfl⟩ := generate_eq_ok_iff.mp generated
  have spaces (group : String × List Node) :
      ((Node.ofNamespace group.1).withChildren group.2).texts = group.2.flatMap Node.texts :=
    Node.texts_of_standsApart rfl
  rw [CompilationUnit.texts, List.flatMap_map]
  simp only [spaces]
  rw [← List.flatMap_assoc, List.mem_flatMap]
  simp only [mem_flatMap_addToGroup, mem_flatMap_controllerGroups, List.mem_cons,
    List.not_mem_nil, or_false]
  constructor
  · rintro ⟨_, ⟨controller, mem, rfl⟩ | rfl | rfl, held⟩
    · exact Or.inl ⟨controller, mem, held⟩
    · rw [texts_rootClass] at held
      cases held
    · exact Or.inr held
  · rintro (⟨controller, mem, held⟩ | held)
    · exact ⟨_, Or.inl ⟨controller, mem, rfl⟩, held⟩
    · exact ⟨_, Or.inr (Or.inr rfl), held⟩

/-- The texts of a generated unit are the names of actions, the names and paths of views and the
paths of static files that get a field. -/
theorem mem_texts_generate {unit : CompilationUnit}
    (generated : generate controllers views files settings = .ok unit) :
    text ∈ unit.texts ↔ HoldsText controllers views files settings text := by
  have actions {controller : Controller} {className : String} {binding : Binding} :
      text ∈ (textMembersClass className (actionPairs controller) binding).texts ↔
        ∃ name, IsFirst id controller.uniqueActionNames name ∧
          memberIdentifier name ≠ className ∧ text = name :=
    mem_texts_textMembersClass
  -- A text is held in one of the groups of a part, or among the links.
  rw [mem_texts_unit generated]
  constructor
  · rintro (⟨controller, mem, held⟩ | held)
    · rcases mem_texts_controllerPart.mp held with ⟨keeps, held⟩ | ⟨keeps, held⟩ | ⟨keeps, held⟩
      · obtain ⟨name, isFirst, free, rfl⟩ := actions.mp held
        exact .action mem keeps isFirst free
      · obtain ⟨name, isFirst, free, rfl⟩ := actions.mp held
        exact .constant mem keeps isFirst free
      · obtain ⟨view, isFirst, rfl | rfl⟩ := mem_texts_viewsClass.mp held
        · exact .viewName mem (showsView_iff.mpr ⟨keeps, isFirst⟩)
        · exact .viewPath mem (showsView_iff.mpr ⟨keeps, isFirst⟩)
    · obtain ⟨file, isFirst, free, rfl⟩ := mem_texts_linksClass.mp held
      exact .file isFirst free
  · intro holds
    cases holds with
    | action mem keeps isFirst free =>
      refine Or.inl ⟨_, mem, mem_texts_controllerPart.mpr (Or.inl ⟨keeps, ?_⟩)⟩
      exact actions.mpr ⟨text, isFirst, free, rfl⟩
    | constant mem keeps isFirst free =>
      refine Or.inl ⟨_, mem, mem_texts_controllerPart.mpr (Or.inr (Or.inl ⟨keeps, ?_⟩))⟩
      exact actions.mpr ⟨text, isFirst, free, rfl⟩
    | viewName mem shows =>
      obtain ⟨keeps, isFirst⟩ := showsView_iff.mp shows
      refine Or.inl ⟨_, mem, mem_texts_controllerPart.mpr (Or.inr (Or.inr ⟨keeps, ?_⟩))⟩
      exact mem_texts_viewsClass.mpr ⟨_, isFirst, Or.inl rfl⟩
    | viewPath mem shows =>
      obtain ⟨keeps, isFirst⟩ := showsView_iff.mp shows
      refine Or.inl ⟨_, mem, mem_texts_controllerPart.mpr (Or.inr (Or.inr ⟨keeps, ?_⟩))⟩
      exact mem_texts_viewsClass.mpr ⟨_, isFirst, Or.inr rfl⟩
    | file isFirst free => exact Or.inr (mem_texts_linksClass.mpr ⟨_, isFirst, free, rfl⟩)

end TypedMvc.Synthesis
