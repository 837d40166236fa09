import TypedMvc.Proofs.UnitText
import TypedMvc.Proofs.UsableNames

/-!
# The text of a generated unit says what was generated

Whatever is generated can be read from its text. The names in it are identifiers, words behind an
`@` or sequences of identifiers with dots (`isWord_of_isMemberName`, `isWord_of_isNamespace`), as
far as the names of the controllers are (`HasCodeNames`), and anything else that comes from outside
stands in literals. So the classes of a unit can be read (`isLegible_controllerPart`,
`isLegible_rootClass`, `isLegible_linksClass`), and the unit with them (`isLegible_generate`):
`unit_eq_of_render_eq` says that no two units have the same text.
-/

namespace TypedMvc.Declaration

open Naming

/-! ## Names are words -/

/-- A character of a name can stand in a word. -/
theorem isWordChar_of_continues {c : Char} (continues : continuesIdentifier c = true) :
    isWordChar c = true := by
  rw [isWordChar, continues, Bool.true_or]

/-- What can begin an identifier can stand in it. -/
theorem continuesIdentifier_of_begins {c : Char} (begins : beginsIdentifier c = true) :
    continuesIdentifier c = true := by
  rw [beginsIdentifier, Bool.or_eq_true] at begins
  rw [continuesIdentifier, Bool.or_eq_true]
  exact begins.imp_right Unicode.isAlphanumeric_of_isAlphabetic

/-- The characters of an identifier can stand in a word. -/
theorem isWordChar_of_mem_identifier {name : String} (isIdent : isIdentifier name = true) :
    ∀ c ∈ name.toList, isWordChar c = true := by
  cases chars : name.toList with
  | nil => exact List.forall_mem_nil _
  | cons first rest =>
    obtain ⟨begins, continues, -⟩ := (isIdentifier_iff chars).mp isIdent
    rw [List.forall_mem_cons]
    exact ⟨isWordChar_of_continues (continuesIdentifier_of_begins begins),
      fun c mem => isWordChar_of_continues (continues c mem)⟩

/-- An identifier is a word. -/
theorem isWord_of_isIdentifier {name : String} (isIdent : isIdentifier name = true) :
    IsWord name := by
  refine ⟨?_, isWordChar_of_mem_identifier isIdent⟩
  rintro rfl
  exact absurd isIdent (by decide)

/-- A name in ASCII is a word. -/
theorem isWord_of_isAsciiName {name : String} (ascii : isAsciiName name = true) : IsWord name :=
  isWord_of_isIdentifier (isIdentifier_of_isAsciiName ascii)

/-- A name in ASCII is a type if it stands for no modifier. -/
theorem isType_of_isAsciiName {name : String} (ascii : isAsciiName name = true)
    (notModifier : name ∉ modifierKeywords) : IsType name :=
  ⟨isWord_of_isAsciiName ascii, notModifier⟩

/-- A name that a member can have is a word. -/
theorem isWord_of_isMemberName {name : String} (member : IsMemberName name) : IsWord name := by
  rcases member with isIdent | escaped
  · exact isWord_of_isIdentifier isIdent
  · obtain ⟨reserved, chars⟩ := isEscapedKeyword_iff.mp escaped
    constructor
    · rintro rfl
      exact absurd chars nofun
    · rw [chars, List.forall_mem_cons]
      exact ⟨Bool.or_true _, fun c mem =>
        isWordChar_of_continues (continuesIdentifier_of_isKeyword reserved mem)⟩

/-- Every character of a text is a separator or stands in one of the pieces. -/
theorem mem_piecesOf (separator : Char) {c : Char} {text : List Char} (mem : c ∈ text) :
    c = separator ∨ ∃ piece ∈ Text.piecesOf separator text, c ∈ piece := by
  induction text with
  | nil => exact absurd mem List.not_mem_nil
  | cons first rest ih =>
    rw [Text.piecesOf]
    split
    · next cut =>
      rcases List.mem_cons.mp mem with rfl | later
      · exact Or.inl cut
      · obtain isSeparator | ⟨piece, isPiece, inside⟩ := ih later
        · exact Or.inl isSeparator
        · exact Or.inr ⟨piece, List.mem_cons_of_mem _ isPiece, inside⟩
    · split
      · next none => exact absurd none (Text.piecesOf_ne_nil _ _)
      · next piece pieces found =>
        rw [found] at ih
        rcases List.mem_cons.mp mem with rfl | later
        · exact Or.inr ⟨_, List.mem_cons_self, List.mem_cons_self⟩
        · -- What is in the first piece of the rest is in the longer first piece.
          obtain isSeparator | ⟨other, isPiece, inside⟩ := ih later
          · exact Or.inl isSeparator
          · rcases List.mem_cons.mp isPiece with rfl | behind
            · exact Or.inr ⟨_, List.mem_cons_self, List.mem_cons_of_mem _ inside⟩
            · exact Or.inr ⟨other, List.mem_cons_of_mem _ behind, inside⟩

/-- The characters of a dotted name can stand in a word. -/
theorem isWordChar_of_mem_namespace {name : String} (isSpace : isNamespace name = true) :
    ∀ c ∈ name.toList, isWordChar c = true := by
  intro c mem
  rw [isNamespace, Bool.or_eq_true, beq_iff_eq, List.all_eq_true] at isSpace
  rcases isSpace with rfl | pieces
  · exact absurd mem List.not_mem_nil
  · obtain rfl | ⟨piece, isPiece, inside⟩ := mem_piecesOf '.' mem
    · exact Bool.or_true _
    · have isIdent := pieces (String.ofList piece) (List.mem_map_of_mem isPiece)
      refine isWordChar_of_mem_identifier isIdent c ?_
      rwa [String.toList_ofList]

/-- A dotted name is a word unless it is empty. -/
theorem isWord_of_isNamespace {name : String} (isSpace : isNamespace name = true)
    (named : name ≠ "") : IsWord name :=
  ⟨named, isWordChar_of_mem_namespace isSpace⟩

/-- A reference from anywhere is a type: its colons are in no modifier. -/
theorem isType_globalReference {qualified : String} (isSpace : isNamespace qualified = true) :
    IsType (Synthesis.globalReference qualified) := by
  have chars : (Synthesis.globalReference qualified).toList =
      "global::".toList ++ qualified.toList := String.toList_append
  -- The colons tell it from every modifier.
  have noColon : ∀ word ∈ modifierKeywords, ':' ∉ word.toList := by decide
  have colon : ':' ∈ (Synthesis.globalReference qualified).toList := by
    rw [chars]
    exact List.mem_append_left _ (by decide)
  refine ⟨⟨?_, ?_⟩, fun modifier => noColon _ modifier colon⟩
  · intro empty
    rw [empty] at colon
    exact absurd colon List.not_mem_nil
  · rw [chars, List.forall_mem_append]
    refine ⟨fun c mem => ?_, isWordChar_of_mem_namespace isSpace⟩
    have parts : "global::".toList.all (fun c => isAsciiPart c || c == ':') = true := by decide
    rcases (Bool.or_eq_true _ _).mp (List.all_eq_true.mp parts c mem) with part | colon
    · exact isWordChar_of_continues (beginsIdentifier_of_isAsciiPart part).2
    · rw [beq_iff_eq.mp colon]
      exact Bool.or_true _

end TypedMvc.Declaration

namespace TypedMvc.Synthesis

open Declaration Model Naming

/-! ## The generated classes can be read -/

/-- A class can be read if its name is a word and what is in it can be read. -/
theorem isLegible_of_class {node : Node} (isClass : node.content = .ofClass)
    (isWord : IsWord node.name)
    (attributed : node.attributes = [] ∨ node.attributes = generatedAttributes)
    (inside : ∀ child ∈ node.children, child.IsLegible) : node.IsLegible := by
  cases node with
  | mk content name modifiers attributes children =>
    obtain rfl : content = .ofClass := isClass
    exact .mk trivial isWord attributed nofun nofun inside

/-- A field with a word for its name can be read if its type and its value can. -/
theorem isLegible_field {name type : String} {value : Expr} (isWord : IsWord name)
    (isType : IsType type) (legible : value.IsLegible) (modifiers : List Modifier) :
    ((Node.ofField name type value).withModifiers modifiers).IsLegible :=
  .mk ⟨isType, legible⟩ isWord (Or.inl rfl) nofun (fun _ => rfl) (List.forall_mem_nil _)

/-- Fields that hold texts can be read, whatever the texts. -/
theorem isLegible_uniqueTextFields (pairs : List (String × String)) (modifiers : List Modifier)
    (reserved : List String) :
    ∀ node ∈ uniqueTextFields pairs modifiers reserved, node.IsLegible := by
  intro node mem
  obtain ⟨pair, isFirst, rfl⟩ := List.mem_map.mp mem
  have member := ((firstByIdentifier_spec reserved pairs).1 pair.1 (List.mem_map_of_mem isFirst)).1
  have reserved : isKeyword "string" = true := by decide
  have isType : IsType "string" := ⟨⟨by decide, fun c mem =>
    isWordChar_of_continues (continuesIdentifier_of_isKeyword reserved mem)⟩, by decide⟩
  have legible : (Expr.text pair.2).IsLegible := trivial
  exact isLegible_field (isWord_of_isMemberName member) isType legible modifiers

/-- A class with a field for each name can be read. -/
theorem isLegible_textMembersClass {className : String} (isWord : IsWord className)
    (pairs : List (String × String)) (binding : Binding) :
    (textMembersClass className pairs binding).IsLegible :=
  isLegible_of_class rfl isWord (Or.inr rfl) (isLegible_uniqueTextFields _ _ _)

/-- A field with an instance and the property by which it is reached can be read. -/
theorem isLegible_singleton {className field property : String} (isType : IsType className)
    (isWord : IsWord field) (isWord' : IsWord property) :
    ∀ node ∈ singleton className field property, node.IsLegible := by
  have legible : (Expr.create className).IsLegible := isType.isWord
  rw [singleton, List.forall_mem_cons, List.forall_mem_singleton]
  exact ⟨isLegible_field isWord isType legible _,
    .mk ⟨isType, isWord⟩ isWord' (Or.inl rfl) (fun isNamespace => by cases isNamespace)
      (fun _ => rfl) (List.forall_mem_nil _)⟩

/-- The class of the views of a controller can be read. -/
theorem isLegible_viewsClass (controller : Controller) (views : List View) :
    (viewsClass controller views).IsLegible := by
  refine isLegible_of_class rfl (show IsWord viewsClassName from isWord_of_isAsciiName (by decide))
    (Or.inr rfl) ?_
  rw [children_viewsClass, List.forall_mem_append, List.forall_mem_cons]
  exact ⟨isLegible_singleton (isType_of_isAsciiName (by decide) (by decide))
      (isWord_of_isAsciiName (by decide)) (isWord_of_isAsciiName (by decide)),
    isLegible_textMembersClass (isWord_of_isAsciiName (by decide)) _ _,
    isLegible_uniqueTextFields _ _ _⟩

/-- The names of a controller are names of C#: its type's is an identifier, and those of its
namespace, if it has one, and of the reference to it are dotted. -/
structure HasCodeNames (controller : Controller) : Prop where
  /-- The type is called by an identifier. -/
  typeName : isIdentifier controller.typeName = true
  /-- The namespace is called by identifiers with dots between them. -/
  namespaceName : ∀ outer ∈ controller.namespaceName, isNamespace outer = true
  /-- The type is referred to by identifiers with dots between them. -/
  qualifiedReference : isNamespace controller.qualifiedReference = true

instance (controller : Controller) : Decidable (HasCodeNames controller) :=
  decidable_of_iff
    (isIdentifier controller.typeName = true ∧
      (∀ outer ∈ controller.namespaceName, isNamespace outer = true) ∧
      isNamespace controller.qualifiedReference = true)
    ⟨fun h => ⟨h.1, h.2.1, h.2.2⟩, fun h => ⟨h.typeName, h.namespaceName, h.qualifiedReference⟩⟩

/-- The part of a controller can be read. -/
theorem isLegible_controllerPart {controller : Controller} (names : HasCodeNames controller)
    (views : List View) : (controllerPart controller views).IsLegible := by
  refine isLegible_of_class rfl (isWord_of_isIdentifier names.typeName) (Or.inl rfl)
    (forall_children_controllerPart ?_ ?_ ?_ (isLegible_viewsClass controller views) ?_)
  · exact isLegible_textMembersClass (isWord_of_isAsciiName (by decide)) _ _
  · exact isLegible_singleton (isType_of_isAsciiName (by decide) (by decide))
      (isWord_of_isAsciiName (by decide)) (isWord_of_isAsciiName (by decide))
  · exact isLegible_textMembersClass (isWord_of_isAsciiName (by decide)) _ _
  · exact isLegible_singleton (isType_of_isAsciiName (by decide) (by decide))
      (isWord_of_isAsciiName (by decide)) (isWord_of_isAsciiName (by decide))

/-- The class with a field for each controller can be read. -/
theorem isLegible_rootClass {controllers : List Controller} {settings : Settings.Generation}
    (names : ∀ c ∈ controllers, HasCodeNames c)
    (isIdent : isIdentifier settings.helpersPrefix = true) :
    (rootClass controllers settings).IsLegible := by
  refine isLegible_of_class rfl (isWord_of_isIdentifier isIdent) (Or.inr rfl) fun node mem => ?_
  obtain ⟨controller, isOne, rfl⟩ := List.mem_map.mp mem
  have isType := isType_globalReference (names controller isOne).qualifiedReference
  have legible : (Expr.create (globalReference controller.qualifiedReference)).IsLegible :=
    isType.isWord
  exact isLegible_field (isWord_of_isMemberName (isMemberName_memberIdentifier _)) isType legible _

/-- The class with a field for each static file can be read. -/
theorem isLegible_linksClass (files : List StaticFile) {settings : Settings.Generation}
    (isIdent : isIdentifier settings.linksClass = true) :
    (linksClass files settings).IsLegible :=
  isLegible_of_class rfl (isWord_of_isIdentifier isIdent) (Or.inr rfl)
    (isLegible_uniqueTextFields _ _ _)

/-! ## The unit -/

/-- The classes in a namespace of a unit can be read. -/
theorem isLegible_classesIn {controllers : List Controller} {settings : Settings.Generation}
    (valid : settings.fault? = none) (names : ∀ c ∈ controllers, HasCodeNames c)
    (views : List View) (files : List StaticFile) (name : String) :
    ∀ node ∈ classesIn controllers views files settings name, node.IsLegible := by
  obtain ⟨helpersPrefix, linksClass, -⟩ := Settings.Generation.fault?_eq_none_iff.mp valid
  rw [classesIn, List.forall_mem_append]
  constructor
  · intro node mem
    obtain ⟨controller, isOne, rfl⟩ := List.mem_map.mp mem
    exact isLegible_controllerPart (names controller (List.mem_filter.mp isOne).1) views
  · split
    · rw [List.forall_mem_cons, List.forall_mem_singleton]
      exact ⟨isLegible_rootClass names helpersPrefix, isLegible_linksClass files linksClass⟩
    · exact List.forall_mem_nil _

/-- A generated unit can be read. -/
theorem isLegible_generate {controllers : List Controller} {views : List View}
    {files : List StaticFile} {settings : Settings.Generation} {unit : CompilationUnit}
    (valid : settings.fault? = none) (names : ∀ c ∈ controllers, HasCodeNames c)
    (generated : generate controllers views files settings = .ok unit) : unit.IsLegible := by
  have members := members_generate generated
  obtain ⟨-, made⟩ := generate_eq_ok_iff.mp generated
  refine ⟨by rw [← made], ?_, ?_⟩
  · intro node mem
    rw [members] at mem
    obtain ⟨name, isName, rfl⟩ := List.mem_map.mp mem
    exact ⟨rfl, rfl, rfl,
      isWord_of_isNamespace (isNamespace_of_mem_namespaceNames valid
        (fun c isOne => (names c isOne).namespaceName) isName),
      classesIn_ne_nil views files isName, fun c => kind_of_mem_classesIn,
      isLegible_classesIn valid names views files name⟩
  · rw [members, List.map_map]
    have named : (namespaceNames controllers settings).map
        (Node.name ∘ fun name => (Node.ofNamespace name).withChildren
          (classesIn controllers views files settings name)) =
        namespaceNames controllers settings := List.map_id' _
    rw [named]
    exact nodup_namespaceNames controllers settings

/-- Generated units are equal if their texts are: the text says which namespaces and classes there
are, their modifiers, attributes and members, and which texts the members hold. -/
theorem unit_eq_of_render_eq {controllers controllers' : List Controller}
    {views views' : List View} {files files' : List StaticFile}
    {settings settings' : Settings.Generation} {u v : CompilationUnit}
    (valid : settings.fault? = none) (valid' : settings'.fault? = none)
    (names : ∀ c ∈ controllers, HasCodeNames c) (names' : ∀ c ∈ controllers', HasCodeNames c)
    (generated : generate controllers views files settings = .ok u)
    (generated' : generate controllers' views' files' settings' = .ok v)
    (same : u.render = v.render) : u = v :=
  (isLegible_generate valid names generated).eq_of_render_eq
    (isLegible_generate valid' names' generated') same

/-- A view that belongs to no controller leaves no trace in the text, and so none in the unit. One
of the controllers is in the global namespace. -/
theorem unit_eq_of_stray_view :
    let home := Controller.ofType "HomeController" none "Controller"
    let cart := Controller.ofType "CartController" (some "Shop.Web") "Controller"
    let index : View := ⟨"Home", "Index", "Views\\Home\\Index.cshtml"⟩
    let stray : View := ⟨"Shared", "Layout", "Views/Shared/Layout.cshtml"⟩
    ∃ u v, generate [home, cart] [index] [] {} = .ok u ∧
      generate [home, cart] [index, stray] [] {} = .ok v ∧ u.render = v.render ∧ u = v := by
  intro home cart index stray
  have clear : collision? [home, cart] {} = none := by decide +kernel
  have names : ∀ c ∈ [home, cart], HasCodeNames c := by decide +kernel
  have valid : (({} : Settings.Generation).fault?) = none := by decide +kernel
  have lines : (generate [home, cart] [index] [] {}).toOption.map (·.lines) =
      (generate [home, cart] [index, stray] [] {}).toOption.map (·.lines) := by decide +kernel
  obtain ⟨u, generated⟩ : ∃ u, generate [home, cart] [index] [] {} = .ok u :=
    ⟨_, generate_eq_ok_iff.mpr ⟨clear, rfl⟩⟩
  obtain ⟨v, generated'⟩ : ∃ v, generate [home, cart] [index, stray] [] {} = .ok v :=
    ⟨_, generate_eq_ok_iff.mpr ⟨clear, rfl⟩⟩
  rw [generated, generated'] at lines
  have same : u.render = v.render := by
    rw [CompilationUnit.render, CompilationUnit.render, show u.lines = v.lines from
      Option.some.inj lines]
  exact ⟨u, v, generated, generated', same,
    unit_eq_of_render_eq valid valid names names generated generated' same⟩

end TypedMvc.Synthesis
