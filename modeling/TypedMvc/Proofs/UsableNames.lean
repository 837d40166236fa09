import TypedMvc.Proofs.ClassMembers
import TypedMvc.Proofs.NamespaceLayout

/-!
# Names of a generated unit

What is generated takes its names from the settings, from the types and namespaces of the
controllers, and from texts of the project that may be anything: the names of actions, views and
files. `HasUsableNames` says of a declaration that it and everything inside it, however deep, is
called by a name that can stand in source text. It is shown of each generated part from the fields
upwards, and `hasUsableNames_generate` says it of the whole unit: only the types and namespaces of
the controllers have to be called by usable names, and the settings have to be valid.
-/

namespace TypedMvc.Synthesis

open Declaration Model Naming

/-! ## Usable names -/

/-- The name of a declaration can be used: a namespace is called by a dotted name or not at all, and
anything else by an identifier or a reserved word behind an `@`. -/
def HasUsableName (node : Node) : Prop :=
  if node.kind = .namespaceKind then isNamespace node.name = true else IsMemberName node.name

/-- The names of a declaration and of everything inside it can be used. -/
def HasUsableNames (node : Node) : Prop := ∀ inner ∈ node.walk, HasUsableName inner

/-- The names can be used if the declaration's own one can and those of what is directly inside it
can. -/
theorem hasUsableNames_iff {node : Node} :
    HasUsableNames node ↔ HasUsableName node ∧ ∀ child ∈ node.children, HasUsableNames child :=
  Node.forall_mem_walk_iff

/-- The names of a namespace can be used if it is called by a dotted name and those of what is in it
can. -/
theorem hasUsableNames_of_space {node : Node} (isSpace : node.kind = .namespaceKind)
    (own : isNamespace node.name = true)
    (inside : ∀ child ∈ node.children, HasUsableNames child) : HasUsableNames node := by
  refine hasUsableNames_iff.mpr ⟨?_, inside⟩
  rwa [HasUsableName, if_pos isSpace]

/-- The names of a class can be used if it is called by a name that a member can have and those of
what is in it can. -/
theorem hasUsableNames_of_class {node : Node} (isClass : node.kind = .classKind)
    (own : IsMemberName node.name)
    (inside : ∀ child ∈ node.children, HasUsableNames child) : HasUsableNames node := by
  refine hasUsableNames_iff.mpr ⟨?_, inside⟩
  rwa [HasUsableName, if_neg (by rw [isClass]; exact nofun)]

/-- The name of a field can be used if it is one that a member can have. -/
theorem hasUsableNames_field {name : String} (own : IsMemberName name) (type : String)
    (value : Expr) (modifiers : List Modifier) :
    HasUsableNames ((Node.ofField name type value).withModifiers modifiers) :=
  hasUsableNames_iff.mpr ⟨own, List.forall_mem_nil _⟩

/-! ## The generated parts -/

/-- Fields for texts have names that can be used, whatever the texts. -/
theorem hasUsableNames_uniqueTextFields (pairs : List (String × String))
    (modifiers : List Modifier) (reserved : List String) :
    ∀ node ∈ uniqueTextFields pairs modifiers reserved, HasUsableNames node := by
  intro node mem
  obtain ⟨pair, isFirst, rfl⟩ := List.mem_map.mp mem
  have member := ((firstByIdentifier_spec reserved pairs).1 pair.1 (List.mem_map_of_mem isFirst)).1
  exact hasUsableNames_field member _ _ _

/-- A field with an instance and the property by which it is reached have names that can be used if
these are identifiers. -/
theorem hasUsableNames_singleton (className : String) {field property : String}
    (isField : isIdentifier field = true) (isProperty : isIdentifier property = true) :
    ∀ node ∈ singleton className field property, HasUsableNames node := by
  rw [singleton, List.forall_mem_cons, List.forall_mem_singleton]
  exact ⟨hasUsableNames_field (Or.inl isField) _ _ _,
    hasUsableNames_iff.mpr ⟨Or.inl isProperty, List.forall_mem_nil _⟩⟩

/-- A class with a field for each text has names that can be used if its own one is an
identifier. -/
theorem hasUsableNames_textMembersClass {className : String}
    (isIdent : isIdentifier className = true) (pairs : List (String × String))
    (binding : Binding) : HasUsableNames (textMembersClass className pairs binding) :=
  hasUsableNames_of_class rfl (Or.inl isIdent) (hasUsableNames_uniqueTextFields _ _ _)

/-- The class of the views of a controller has names that can be used, whatever the views are
called. -/
theorem hasUsableNames_viewsClass (controller : Controller) (views : List View) :
    HasUsableNames (viewsClass controller views) := by
  have own : isIdentifier viewsClassName = true := isIdentifier_of_isAsciiName (by decide)
  refine hasUsableNames_of_class rfl (Or.inl own) ?_
  rw [children_viewsClass, List.forall_mem_append, List.forall_mem_cons]
  exact ⟨hasUsableNames_singleton _ (isIdentifier_of_isAsciiName (by decide))
      (isIdentifier_of_isAsciiName (by decide)),
    hasUsableNames_textMembersClass (isIdentifier_of_isAsciiName (by decide)) _ _,
    hasUsableNames_uniqueTextFields _ _ _⟩

/-- The part of a controller has names that can be used if the type is called by an identifier,
whatever the actions and the views are called. -/
theorem hasUsableNames_controllerPart {controller : Controller}
    (isIdent : isIdentifier controller.typeName = true) (views : List View) :
    HasUsableNames (controllerPart controller views) := by
  refine hasUsableNames_of_class rfl (Or.inl isIdent)
    (forall_children_controllerPart ?_ ?_ ?_ (hasUsableNames_viewsClass controller views) ?_)
  · exact hasUsableNames_textMembersClass (isIdentifier_of_isAsciiName (by decide)) _ _
  · exact hasUsableNames_singleton _ (isIdentifier_of_isAsciiName (by decide))
      (isIdentifier_of_isAsciiName (by decide))
  · exact hasUsableNames_textMembersClass (isIdentifier_of_isAsciiName (by decide)) _ _
  · exact hasUsableNames_singleton _ (isIdentifier_of_isAsciiName (by decide))
      (isIdentifier_of_isAsciiName (by decide))

/-- The class with a field for each controller has names that can be used, whatever the controllers
are called. -/
theorem hasUsableNames_rootClass (controllers : List Controller) {settings : Settings.Generation}
    (isIdent : isIdentifier settings.helpersPrefix = true) :
    HasUsableNames (rootClass controllers settings) := by
  refine hasUsableNames_of_class rfl (Or.inl isIdent) fun node mem => ?_
  obtain ⟨controller, -, rfl⟩ := List.mem_map.mp mem
  exact hasUsableNames_field (isMemberName_memberIdentifier _) _ _ _

/-- The class with a field for each static file has names that can be used, whatever the files are
called. -/
theorem hasUsableNames_linksClass (files : List StaticFile) {settings : Settings.Generation}
    (isIdent : isIdentifier settings.linksClass = true) :
    HasUsableNames (linksClass files settings) :=
  hasUsableNames_of_class rfl (Or.inl isIdent) (hasUsableNames_uniqueTextFields _ _ _)

/-! ## The unit -/

/-- The namespaces of a unit are called by dotted names or not at all, if those of the controllers
are. -/
theorem isNamespace_of_mem_namespaceNames {controllers : List Controller}
    {settings : Settings.Generation} (valid : settings.fault? = none)
    (spaces : ∀ c ∈ controllers, ∀ outer ∈ c.namespaceName, isNamespace outer = true)
    {name : String} (mem : name ∈ namespaceNames controllers settings) :
    isNamespace name = true := by
  rcases mem_namespaceNames.mp mem with ⟨controller, isOne, rfl⟩ | rfl
  · unfold namespaceOf
    cases outer : controller.namespaceName with
    | none => rfl
    | some space => exact spaces controller isOne space outer
  · exact (Settings.Generation.fault?_eq_none_iff.mp valid).2.2.2.1

/-- In a unit that is generated with valid settings every declaration, however deep, has a name that
can be used, if the types of the controllers are called by identifiers and their namespaces by
dotted names or not at all. Controllers, actions, views and static files may be called by any
text. -/
theorem hasUsableNames_generate {controllers : List Controller} {views : List View}
    {files : List StaticFile} {settings : Settings.Generation} {unit : CompilationUnit}
    (valid : settings.fault? = none)
    (types : ∀ c ∈ controllers, isIdentifier c.typeName = true)
    (spaces : ∀ c ∈ controllers, ∀ outer ∈ c.namespaceName, isNamespace outer = true)
    (generated : generate controllers views files settings = .ok unit) :
    ∀ space ∈ unit.members, ∀ node ∈ space.walk,
      (node.kind = .namespaceKind → isNamespace node.name = true) ∧
        (node.kind ≠ .namespaceKind →
          isIdentifier node.name = true ∨ isEscapedKeyword node.name = true) := by
  obtain ⟨helpersPrefix, links, -⟩ := Settings.Generation.fault?_eq_none_iff.mp valid
  -- A namespace has parts of controllers in it, and that of the project the two classes of its own.
  have inside : ∀ name, ∀ node ∈ classesIn controllers views files settings name,
      HasUsableNames node := by
    intro name
    rw [classesIn, List.forall_mem_append]
    constructor
    · intro node mem
      obtain ⟨controller, isOne, rfl⟩ := List.mem_map.mp mem
      exact hasUsableNames_controllerPart (types controller (List.mem_filter.mp isOne).1) views
    · split
      · rw [List.forall_mem_cons, List.forall_mem_singleton]
        exact ⟨hasUsableNames_rootClass controllers helpersPrefix,
          hasUsableNames_linksClass files links⟩
      · exact List.forall_mem_nil _
  rw [members_generate generated, List.forall_mem_map]
  intro name mem node isInside
  have usable : HasUsableNames ((Node.ofNamespace name).withChildren
      (classesIn controllers views files settings name)) :=
    hasUsableNames_of_space rfl (isNamespace_of_mem_namespaceNames valid spaces mem) (inside name)
  have usableName := usable node isInside
  rw [HasUsableName] at usableName
  split at usableName
  · next isSpace => exact ⟨fun _ => usableName, fun other => absurd isSpace other⟩
  · next other => exact ⟨fun isSpace => absurd isSpace other, fun _ => usableName⟩

/-- A controller that is called by the empty text, with actions called by a reserved word, by the
same word behind an `@`, by a fraction and by nothing at all, and a view and a file that begin with
digits: all of them get names that can be used. -/
theorem hasUsableNames_odd_texts :
    let actions := ["class", "@class", "½", ""].map fun name =>
      ({ name, controller := "HomeController" } : Action)
    let home : Controller := ⟨"", "HomeController", some "App.Web", "App.Web.HomeController",
      actions, false, []⟩
    let views := [⟨"homecontroller", "2nd view", "Views/HomeController/2nd view.cshtml"⟩]
    let files := [⟨"404.html", "404.html"⟩]
    let settings : Settings.Generation := {}
    (rootClass [home] settings).children.map Node.name = ["_"] ∧
    (actionNamesClass home).children.map Node.name = ["@class", "_½", "_"] ∧
    (viewPathFields home views).map Node.name = ["_2nd_view"] ∧
    (linksClass files settings).children.map Node.name = ["_404_html"] ∧
    settings.fault? = none ∧ (∀ c ∈ [home], isIdentifier c.typeName = true) ∧
    (∀ c ∈ [home], ∀ outer ∈ c.namespaceName, isNamespace outer = true) ∧
      ∃ unit, generate [home] views files settings = .ok unit ∧
        ∀ space ∈ unit.members, ∀ node ∈ space.walk,
          (node.kind = .namespaceKind → isNamespace node.name = true) ∧
            (node.kind ≠ .namespaceKind →
              isIdentifier node.name = true ∨ isEscapedKeyword node.name = true) := by
  intro actions home views files settings
  have valid : settings.fault? = none :=
    Settings.Generation.fault?_eq_none_iff.mpr ⟨isIdentifier_of_isAsciiName (by decide),
      isIdentifier_of_isAsciiName (by decide), isIdentifier_of_isAsciiName (by decide), rfl,
      by decide, by decide +kernel⟩
  have types : ∀ c ∈ [home], isIdentifier c.typeName = true :=
    List.forall_mem_singleton.mpr (isIdentifier_of_isAsciiName (by decide))
  have spaces : ∀ c ∈ [home], ∀ outer ∈ c.namespaceName, isNamespace outer = true := by
    decide +kernel
  have clear : collision? [home] settings = none := by decide +kernel
  obtain ⟨unit, generated⟩ : ∃ unit, generate [home] views files settings = .ok unit :=
    ⟨_, generate_eq_ok_iff.mpr ⟨clear, rfl⟩⟩
  exact ⟨by decide +kernel, by decide +kernel, by decide +kernel, by decide +kernel, valid, types,
    spaces, unit, generated, hasUsableNames_generate valid types spaces generated⟩

end TypedMvc.Synthesis
