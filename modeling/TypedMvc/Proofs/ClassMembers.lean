import Mathlib.Data.List.Flatten
import TypedMvc.Proofs.GeneratedClasses
import TypedMvc.Proofs.MemberNames
import TypedMvc.Settings.Validity

/-!
# No member clash in a generated class

The names of the members of a generated class come from three sources, and each keeps them apart in
its own way. Texts that become fields are made into names, the first of each name counts, and some
names are reserved (`firstByIdentifier_spec`). The fields for the controllers are kept apart by the
check for collisions (`collisionFrom_eq_none_iff`). The members that are added to a controller come
in groups of fixed names (`names_controllerPart`). `members_apart_of_generate` puts them together:
in no class of a generated unit do two members clash, and a member clashes with the class itself at
most in the part of a controller.
-/

namespace TypedMvc.Synthesis

open Declaration Model Naming

/-! ## Where the names come from -/

/-- The names of fields for texts are names that members can have, none is taken, and no two are
the same. -/
theorem firstByIdentifier_spec (taken : List String) (pairs : List (String × String)) :
    (∀ name ∈ (firstByIdentifier taken pairs).map Prod.fst, IsMemberName name ∧ name ∉ taken) ∧
      ((firstByIdentifier taken pairs).map Prod.fst).Nodup := by
  induction pairs generalizing taken with
  | nil => exact ⟨nofun, List.nodup_nil⟩
  | cons pair rest ih =>
    obtain ⟨name, value⟩ := pair
    rw [firstByIdentifier]
    split
    · exact ih taken
    · next free =>
      obtain ⟨names, distinct⟩ := ih (memberIdentifier name :: taken)
      rw [List.map_cons, List.nodup_cons]
      refine ⟨fun other mem => ?_, fun again => ?_, distinct⟩
      · rcases List.mem_cons.mp mem with rfl | later
        · exact ⟨isMemberName_memberIdentifier name, free⟩
        · exact ⟨(names other later).1, fun known => (names other later).2
            (List.mem_cons_of_mem _ known)⟩
      · exact (names _ again).2 List.mem_cons_self

/-- The fields for texts have the names made for them. -/
theorem names_uniqueTextFields (pairs : List (String × String)) (modifiers : List Modifier)
    (reserved : List String) :
    (uniqueTextFields pairs modifiers reserved).map Node.name =
      (firstByIdentifier reserved pairs).map Prod.fst := by
  rw [uniqueTextFields, List.map_map]
  rfl

/-- There is no collision exactly if the fields have distinct names, none of them that of the class
or of a controller already seen. -/
theorem collisionFrom_eq_none_iff {helpersPrefix : String} {seen controllers : List Controller} :
    collisionFrom helpersPrefix seen controllers = none ↔
      (controllers.map fieldNameOf).Nodup ∧
        ∀ c ∈ controllers, fieldNameOf c ≠ helpersPrefix ∧
          ∀ earlier ∈ seen, fieldNameOf earlier ≠ fieldNameOf c := by
  induction controllers generalizing seen with
  | nil => simp [collisionFrom]
  | cons c rest ih =>
    rw [collisionFrom]
    split
    · next own => exact iff_of_false nofun fun h => (h.2 c List.mem_cons_self).1 own
    · next other =>
      split
      · next earlier found =>
        -- A controller that is already seen has the name.
        refine iff_of_false nofun fun h => ?_
        exact (h.2 c List.mem_cons_self).2 earlier (List.mem_of_find?_eq_some found)
          (by simpa using List.find?_some found)
      · next unseen =>
        -- What the others must differ from is what was seen before and this controller.
        have fresh : ∀ earlier ∈ seen, fieldNameOf earlier ≠ fieldNameOf c := by
          simpa using unseen
        rw [ih, List.map_cons, List.nodup_cons, List.mem_map]
        constructor
        · rintro ⟨distinct, free⟩
          refine ⟨⟨?_, distinct⟩, fun d mem => ?_⟩
          · rintro ⟨d, mem, same⟩
            exact (free d mem).2 c List.mem_cons_self same.symm
          · rcases List.mem_cons.mp mem with rfl | later
            · exact ⟨other, fresh⟩
            · exact ⟨(free d later).1, fun earlier known =>
                (free d later).2 earlier (List.mem_cons_of_mem _ known)⟩
        · rintro ⟨⟨alone, distinct⟩, free⟩
          refine ⟨distinct, fun d mem => ?_⟩
          obtain ⟨unowned, unknown⟩ := free d (List.mem_cons_of_mem _ mem)
          refine ⟨unowned, fun earlier known => ?_⟩
          rcases List.mem_cons.mp known with rfl | before
          · exact fun same => alone ⟨d, mem, same.symm⟩
          · exact unknown earlier before

/-! ## Classes whose members are kept apart -/

/-- The names of the members of a class do not clash. -/
def HasDistinctMembers (node : Node) : Prop :=
  (node.children.map fun child => withoutAt child.name).Nodup

/-- No member of a class clashes with the class itself. -/
def AvoidsOwnName (node : Node) : Prop :=
  ∀ child ∈ node.children, withoutAt child.name ≠ withoutAt node.name

/-- Members do not clash if their names are distinct names that members can have. -/
theorem hasDistinctMembers_of_names {node : Node}
    (member : ∀ name ∈ node.children.map Node.name, IsMemberName name)
    (distinct : (node.children.map Node.name).Nodup) : HasDistinctMembers node := by
  have apart := nodup_withoutAt member distinct
  rwa [List.map_map] at apart

/-- Members do not clash with their class if their names are others and all are names that members
can have. -/
theorem avoidsOwnName_of_names {node : Node} (own : IsMemberName node.name)
    (member : ∀ name ∈ node.children.map Node.name, IsMemberName name ∧ name ≠ node.name) :
    AvoidsOwnName node := by
  intro child mem same
  obtain ⟨isMember, other⟩ := member child.name (List.mem_map_of_mem mem)
  exact other (eq_of_withoutAt_eq isMember own same)

/-- A class whose members are some of fixed names and fields for texts, with the fixed names and its
own one reserved, has no clash. -/
theorem apart_of_fields {node : Node} (fixed : List String) {reserved : List String}
    {pairs : List (String × String)} {modifiers : List Modifier}
    (own : isIdentifier node.name = true) (ownReserved : node.name ∈ reserved)
    (names : node.children.map Node.name =
      fixed ++ (uniqueTextFields pairs modifiers reserved).map Node.name)
    (fixedNames : ∀ name ∈ fixed, isIdentifier name = true ∧ name ∈ reserved ∧ name ≠ node.name)
    (fixedDistinct : fixed.Nodup) :
    HasDistinctMembers node ∧ AvoidsOwnName node := by
  obtain ⟨fields, distinct⟩ := firstByIdentifier_spec reserved pairs
  rw [names_uniqueTextFields] at names
  have member : ∀ name ∈ node.children.map Node.name, IsMemberName name ∧ name ≠ node.name := by
    intro name mem
    rw [names, List.mem_append] at mem
    rcases mem with isFixed | isField
    · obtain ⟨ident, -, other⟩ := fixedNames name isFixed
      exact ⟨Or.inl ident, other⟩
    · obtain ⟨isMember, free⟩ := fields name isField
      refine ⟨isMember, fun same => free ?_⟩
      rw [same]
      exact ownReserved
  refine ⟨hasDistinctMembers_of_names (fun name mem => (member name mem).1) ?_,
    avoidsOwnName_of_names (Or.inl own) member⟩
  rw [names]
  -- The fixed names are reserved, so no field has one of them.
  refine List.nodup_append.mpr ⟨fixedDistinct, distinct, ?_⟩
  rintro name isFixed other isField rfl
  exact (fields name isField).2 (fixedNames name isFixed).2.1

/-- In a class with a field for each name nothing clashes. -/
theorem apart_textMembersClass {className : String} (own : isIdentifier className = true)
    (pairs : List (String × String)) (binding : Binding) :
    HasDistinctMembers (textMembersClass className pairs binding) ∧
      AvoidsOwnName (textMembersClass className pairs binding) :=
  apart_of_fields [] own List.mem_cons_self rfl (List.forall_mem_nil _) List.nodup_nil

/-- In the class of the views nothing clashes. -/
theorem apart_viewsClass (controller : Controller) (views : List View) :
    HasDistinctMembers (viewsClass controller views) ∧
      AvoidsOwnName (viewsClass controller views) := by
  have own : isIdentifier viewsClassName = true := isIdentifier_of_isAsciiName (by decide)
  have fixedNames : ∀ name ∈ ["s_ViewNames", "ViewNames", viewNamesClassName],
      isIdentifier name = true ∧ name ∈ reservedViewNames ∧ name ≠ viewsClassName := by
    have ascii : ∀ name ∈ ["s_ViewNames", "ViewNames", viewNamesClassName],
        isAsciiName name = true ∧ name ∈ reservedViewNames ∧ name ≠ viewsClassName := by decide
    exact fun name mem => (ascii name mem).imp_left isIdentifier_of_isAsciiName
  have names : (viewsClass controller views).children.map Node.name =
      ["s_ViewNames", "ViewNames", viewNamesClassName] ++
        (viewPathFields controller views).map Node.name := by
    rw [children_viewsClass]
    rfl
  exact apart_of_fields _ own List.mem_cons_self names fixedNames (by decide)

/-- In the class for the static files nothing clashes. -/
theorem apart_linksClass (files : List StaticFile) {settings : Settings.Generation}
    (own : isIdentifier settings.linksClass = true) :
    HasDistinctMembers (linksClass files settings) ∧ AvoidsOwnName (linksClass files settings) :=
  apart_of_fields [] own List.mem_cons_self rfl (List.forall_mem_nil _) List.nodup_nil

/-- In the class for the controllers nothing clashes if there is no collision. -/
theorem apart_rootClass {controllers : List Controller} {settings : Settings.Generation}
    (own : isIdentifier settings.helpersPrefix = true)
    (clear : collision? controllers settings = none) :
    HasDistinctMembers (rootClass controllers settings) ∧
      AvoidsOwnName (rootClass controllers settings) := by
  obtain ⟨distinct, free⟩ := collisionFrom_eq_none_iff.mp clear
  have names : (rootClass controllers settings).children.map Node.name =
      controllers.map fieldNameOf := by
    rw [rootClass]
    exact List.map_map
  have member : ∀ name ∈ controllers.map fieldNameOf,
      IsMemberName name ∧ name ≠ settings.helpersPrefix := by
    intro name mem
    obtain ⟨controller, known, rfl⟩ := List.mem_map.mp mem
    exact ⟨isMemberName_memberIdentifier _, (free controller known).1⟩
  rw [← names] at distinct member
  exact ⟨hasDistinctMembers_of_names (fun name mem => (member name mem).1) distinct,
    avoidsOwnName_of_names (Or.inl own) member⟩

/-- The members that are added to a controller, in groups, each with its kind. -/
def memberKinds : List (List (String × Kind)) := [
  [("ActionNamesClass", .classKind), ("s_actions", .fieldKind), ("ActionNames", .propertyKind)],
  [("ActionNameConstants", .classKind)],
  [("ViewsClass", .classKind), ("s_views", .fieldKind), ("Views", .propertyKind)]]

/-- The members of a controller's part are those of the groups that it keeps. -/
theorem kinds_controllerPart (controller : Controller) (views : List View) :
    ((controllerPart controller views).children.map fun child => (child.name, child.kind)) =
      (memberKinds.filter fun group => keepsGroup controller (group.map Prod.fst)).flatten := by
  have actionNames : [("ActionNamesClass", Kind.classKind), ("s_actions", .fieldKind),
      ("ActionNames", .propertyKind)].map Prod.fst = actionNamesGroup := rfl
  have actionConstants : [("ActionNameConstants", Kind.classKind)].map Prod.fst =
      actionConstantsGroup := rfl
  have viewMembers : [("ViewsClass", Kind.classKind), ("s_views", .fieldKind),
      ("Views", .propertyKind)].map Prod.fst = viewsGroup := rfl
  rw [children_controllerPart, memberKinds]
  simp only [List.filter_cons, List.filter_nil, actionNames, actionConstants, viewMembers]
  cases keepsGroup controller actionNamesGroup <;>
    cases keepsGroup controller actionConstantsGroup <;>
      cases keepsGroup controller viewsGroup <;> rfl

/-- The members of a controller's part are called like the groups that it keeps. -/
theorem names_controllerPart (controller : Controller) (views : List View) :
    (controllerPart controller views).children.map Node.name =
      (memberGroups.filter (keepsGroup controller)).flatten := by
  have kinds := congrArg (List.map Prod.fst) (kinds_controllerPart controller views)
  have groups : memberGroups = memberKinds.map (List.map Prod.fst) := rfl
  rw [List.map_map, List.map_flatten] at kinds
  rw [groups, List.filter_map]
  exact kinds

/-- The members of a controller's part are called by some of the names in the groups. -/
theorem sublist_names_controllerPart (controller : Controller) (views : List View) :
    ((controllerPart controller views).children.map Node.name).Sublist memberGroups.flatten := by
  rw [names_controllerPart]
  exact List.Sublist.flatten List.filter_sublist

/-- No two members of a controller's part have the same name. -/
theorem nodup_names_controllerPart (controller : Controller) (views : List View) :
    ((controllerPart controller views).children.map Node.name).Nodup := by
  have distinct : memberGroups.flatten.Nodup := by decide
  exact distinct.sublist (sublist_names_controllerPart controller views)

/-- The members that are added to a controller have names that no two of them share. -/
theorem hasDistinctMembers_controllerPart (controller : Controller) (views : List View) :
    HasDistinctMembers (controllerPart controller views) := by
  have kept := sublist_names_controllerPart controller views
  have ascii : ∀ name ∈ memberGroups.flatten, isAsciiName name = true := by decide
  exact hasDistinctMembers_of_names
    (fun name mem => Or.inl (isIdentifier_of_isAsciiName (ascii name (kept.subset mem))))
    (nodup_names_controllerPart controller views)

/-! ## All classes of a unit -/

/-- In every class of a generated unit, however deep, the names of the members are distinct, also
without an `@` in front of them, and in every class but the parts of the controllers they are others
than that of the class. -/
theorem members_apart_of_generate {controllers : List Controller} {views : List View}
    {files : List StaticFile} {settings : Settings.Generation} {unit : CompilationUnit}
    (valid : settings.fault? = none)
    (generated : generate controllers views files settings = .ok unit) :
    ∀ node ∈ unit.allClasses, HasDistinctMembers node ∧
      ((∀ controller ∈ controllers, node ≠ controllerPart controller views) →
        AvoidsOwnName node) := by
  obtain ⟨clear, -⟩ := generate_eq_ok_iff.mp generated
  obtain ⟨ownRoot, ownLinks, -⟩ := Settings.Generation.fault?_eq_none_iff.mp valid
  intro node mem
  rcases (mem_allClasses_generate generated).mp mem with
    ⟨controller, known, inside⟩ | rfl | rfl
  · rcases mem_classes_controllerPart inside with rfl | rfl | rfl | rfl | rfl
    · exact ⟨hasDistinctMembers_controllerPart controller views,
        fun other => absurd rfl (other controller known)⟩
    · exact (apart_textMembersClass (by decide +kernel) _ _).imp_right fun avoids _ => avoids
    · exact (apart_textMembersClass (by decide +kernel) _ _).imp_right fun avoids _ => avoids
    · exact (apart_viewsClass controller views).imp_right fun avoids _ => avoids
    · exact (apart_textMembersClass (by decide +kernel) _ _).imp_right fun avoids _ => avoids
  · exact (apart_rootClass ownRoot clear).imp_right fun avoids _ => avoids
  · exact (apart_linksClass files ownLinks).imp_right fun avoids _ => avoids

/-- A controller with two actions that get the same name, one of them without any change, a view
that is called like the class for views, and two files of one name: nothing clashes. -/
theorem members_apart_home :
    let home := (((Controller.ofType "HomeController" none "Controller").withAction
      "class").withAction "@class").withAction "1st"
    let views := [⟨"Home", "Index", "Views/Home/Index.cshtml"⟩,
      ⟨"Home", "ViewsClass", "Views/Home/ViewsClass.cshtml"⟩]
    let files := [⟨"site.js", "js/site.js"⟩, ⟨"site.js", "lib/site.js"⟩, ⟨"Links", "Links"⟩]
    let settings : Settings.Generation := {}
    (actionNamesClass home).children.map Node.name = ["@class", "_1st"] ∧
    (viewPathFields home views).map Node.name = ["Index"] ∧
    (linksClass files settings).children.map Node.name = ["site_js"] ∧
    settings.fault? = none ∧
      ∃ unit, generate [home] views files settings = .ok unit ∧
        ∀ node ∈ unit.allClasses, HasDistinctMembers node ∧
          ((∀ controller ∈ [home], node ≠ controllerPart controller views) →
            AvoidsOwnName node) := by
  intro home views files settings
  have valid : settings.fault? = none := by decide +kernel
  have clear : collision? [home] settings = none := by decide +kernel
  obtain ⟨unit, generated⟩ : ∃ unit, generate [home] views files settings = .ok unit :=
    ⟨_, generate_eq_ok_iff.mpr ⟨clear, rfl⟩⟩
  exact ⟨by decide +kernel, by decide +kernel, by decide +kernel, valid, unit, generated,
    members_apart_of_generate valid generated⟩

end TypedMvc.Synthesis
