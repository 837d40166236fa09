import TypedMvc.Proofs.GeneratedClasses
import TypedMvc.Proofs.LetterCase

/-!
# When a view belongs to one controller only

A view belongs to a controller if its folder is called like the controller or like its type,
whatever the case (`ownsView_iff`). Controllers that do not collide have distinct names, but the
check for collisions minds the case, and it does not compare the name of one controller with the
type of another. `ownsView_unique_iff` says what is needed instead: no two controllers have a
lower-case name in common. It says the same of the fields that the part of a controller has for
its views (`showsView`, `mem_viewFields`). `view_of_two_controllers` has two pairs of controllers
that do not collide and share a view.
-/

namespace TypedMvc.Synthesis

open Model Naming Unicode

/-- The folders whose views belong to a controller, in lower case. -/
def folders (controller : Controller) : List String :=
  [lower controller.typeName, lower controller.name]

/-- A view belongs to a controller exactly if its folder is one of the controller's. -/
theorem ownsView_iff {controller : Controller} {view : View} :
    controller.ownsView view = true ↔ lower view.controllerName ∈ folders controller := by
  rw [Controller.ownsView, Bool.or_eq_true, eqIgnoreCase_iff, eqIgnoreCase_iff, folders]
  simp only [List.mem_cons, List.not_mem_nil, or_false]

/-- A folder of a controller is the lower-case form of some name. -/
theorem exists_lower_of_mem_folders {controller : Controller} {folder : String}
    (mem : folder ∈ folders controller) : ∃ name, lower name = folder := by
  rcases List.mem_cons.mp mem with rfl | isName
  · exact ⟨_, rfl⟩
  · exact ⟨_, (List.mem_singleton.mp isName).symm⟩

/-! ## At most one of a list -/

/-- At most one element of a list passes a test exactly if no two do. -/
theorem length_filter_le_one_iff {α : Type} {test : α → Bool} {elements : List α} :
    (elements.filter test).length ≤ 1 ↔
      elements.Pairwise fun a b => ¬ (test a = true ∧ test b = true) := by
  induction elements with
  | nil => simp
  | cons a rest ih =>
    rw [List.pairwise_cons]
    by_cases passes : test a = true
    · -- The first element passes, so none behind it may.
      have others : (rest.filter test).length ≤ 0 ↔
          ∀ b ∈ rest, ¬ (test a = true ∧ test b = true) := by
        rw [Nat.le_zero, List.length_eq_zero_iff, List.filter_eq_nil_iff]
        simp only [passes, true_and]
      rw [List.filter_cons, if_pos passes, List.length_cons, Nat.succ_le_succ_iff, others]
      refine ⟨fun alone => ⟨alone, ?_⟩, And.left⟩
      exact ih.mp (Nat.le_succ_of_le (others.mpr alone))
    · rw [List.filter_cons, if_neg passes, ih, and_iff_right]
      exact fun b _ both => passes both.1

/-- At most one element passes each of many tests exactly if no two pass one of them. -/
theorem forall_length_filter_le_one_iff {α ι : Type} (test : ι → α → Bool) (elements : List α) :
    (∀ i, (elements.filter (test i)).length ≤ 1) ↔
      elements.Pairwise fun a b => ∀ i, ¬ (test i a = true ∧ test i b = true) := by
  simp only [length_filter_le_one_iff, List.pairwise_iff_forall_sublist]
  exact ⟨fun apart a b sub i => apart i sub, fun apart i a b sub => apart sub i⟩

/-! ## Which views are shown -/

/-- A pair gets a field exactly if its identifier is not taken and no pair before it has the same
one. -/
theorem mem_firstByIdentifier {taken : List String} {pairs : List (String × String)}
    {ident value : String} :
    (ident, value) ∈ firstByIdentifier taken pairs ↔
      ident ∉ taken ∧ ∃ name,
        (pairs.find? fun pair => memberIdentifier pair.1 == ident) = some (name, value) := by
  induction pairs generalizing taken with
  | nil => simp [firstByIdentifier]
  | cons pair rest ih =>
    obtain ⟨name, first⟩ := pair
    rw [firstByIdentifier, List.find?_cons]
    by_cases same : memberIdentifier name = ident
    · rw [beq_iff_eq.mpr same]
      split
      · next known =>
        rw [ih]
        exact iff_of_false (fun h => h.1 (same ▸ known)) fun h => h.1 (same ▸ known)
      · next free =>
        -- The first pair gets the field, and the identifier is taken for the others.
        rw [List.mem_cons, ih, same]
        rw [same] at free
        simp only [Prod.mk.injEq, true_and, List.mem_cons, not_true_eq_false, false_and,
          or_false, Option.some.injEq, free, not_false_eq_true, exists_and_right, exists_eq',
          eq_comm]
    · rw [beq_eq_false_iff_ne.mpr same]
      split
      · exact ih
      · rw [List.mem_cons, ih, List.mem_cons, not_or]
        simp only [Prod.mk.injEq, Ne.symm same, false_and, false_or, not_false_eq_true, true_and]

/-- Something is the first of some things that have its identifier. -/
def IsFirst {α : Type} (name : α → String) (items : List α) (item : α) : Prop :=
  items.find? (fun other => memberIdentifier (name other) == memberIdentifier (name item)) =
    some item

/-- The fields that some things get, whatever these hold, are those of the first ones of their
identifiers, unless the identifiers are taken. -/
theorem mem_uniqueTextFields {α : Type} {name value : α → String} {items : List α}
    {modifiers : List Declaration.Modifier} {taken : List String} {node : Declaration.Node} :
    node ∈ uniqueTextFields (items.map fun item => (name item, value item)) modifiers taken ↔
      ∃ item, IsFirst name items item ∧ memberIdentifier (name item) ∉ taken ∧
        node = (Declaration.Node.ofText (memberIdentifier (name item))
          (value item)).withModifiers modifiers := by
  rw [uniqueTextFields, List.mem_map]
  constructor
  · rintro ⟨⟨ident, text⟩, isFirst, rfl⟩
    obtain ⟨free, _, found⟩ := mem_firstByIdentifier.mp isFirst
    rw [List.find?_map, Option.map_eq_some_iff] at found
    obtain ⟨item, found, pair⟩ := found
    obtain ⟨rfl, rfl⟩ := Prod.mk.inj pair
    have identified : memberIdentifier (name item) = ident := by
      have passes := List.find?_some found
      simpa only [Function.comp_apply, beq_iff_eq] using passes
    subst identified
    exact ⟨item, found, free, rfl⟩
  · rintro ⟨item, isFirst, free, rfl⟩
    refine ⟨(memberIdentifier (name item), value item),
      mem_firstByIdentifier.mpr ⟨free, name item, ?_⟩, rfl⟩
    rw [List.find?_map, Option.map_eq_some_iff]
    exact ⟨item, isFirst, rfl⟩

/-- Whether the part of a controller has members made from a view: the members for views are not
left out, and the view is the first of those of the controller that have its identifier. -/
def showsView (views : List View) (view : View) (controller : Controller) : Bool :=
  keepsGroup controller viewsGroup &&
    ((ownedViews controller views).find? fun other =>
      memberIdentifier other.viewName == memberIdentifier view.viewName) == some view

/-- A view that is shown belongs to the controller and has an identifier that is not reserved. -/
theorem mem_ownedViews {controller : Controller} {views : List View} {view : View} :
    view ∈ ownedViews controller views ↔
      view ∈ views ∧ controller.ownsView view = true ∧
        memberIdentifier view.viewName ∉ reservedViewNames := by
  rw [ownedViews, List.mem_filter, List.mem_filter, and_assoc]
  simp

/-- A view is shown exactly if views have members and it is the first one of its identifier. -/
theorem showsView_iff {views : List View} {view : View} {controller : Controller} :
    showsView views view controller = true ↔
      keepsGroup controller viewsGroup = true ∧
        IsFirst View.viewName (ownedViews controller views) view := by
  rw [showsView, Bool.and_eq_true, beq_iff_eq, IsFirst]

/-- The fields that a controller has for its views, whatever they hold, are those of the views that
it shows. The reserved names do not matter, as no view of the controller has one of them. -/
theorem mem_viewFields {controller : Controller} {views : List View} {node : Declaration.Node}
    (keeps : keepsGroup controller viewsGroup = true) (value : View → String)
    {taken : List String} (reserved : ∀ name ∈ taken, name ∈ reservedViewNames) :
    node ∈ uniqueTextFields
        ((ownedViews controller views).map fun view => (view.viewName, value view))
        Binding.readOnly.modifiers taken ↔
      ∃ view, showsView views view controller = true ∧
        node = (Declaration.Node.ofText (memberIdentifier view.viewName)
          (value view)).withModifiers Binding.readOnly.modifiers := by
  rw [mem_uniqueTextFields]
  constructor
  · rintro ⟨view, isFirst, -, rfl⟩
    exact ⟨view, showsView_iff.mpr ⟨keeps, isFirst⟩, rfl⟩
  · rintro ⟨view, shows, rfl⟩
    obtain ⟨-, isFirst⟩ := showsView_iff.mp shows
    have free : memberIdentifier view.viewName ∉ taken := fun known =>
      (mem_ownedViews.mp (List.mem_of_find?_eq_some isFirst)).2.2 (reserved _ known)
    exact ⟨view, isFirst, free, rfl⟩

/-- The fields for the paths of the views of a controller are those of the views that it shows. -/
theorem mem_viewPathFields {controller : Controller} {views : List View} {node : Declaration.Node}
    (keeps : keepsGroup controller viewsGroup = true) :
    node ∈ viewPathFields controller views ↔
      ∃ view, showsView views view controller = true ∧
        node = (Declaration.Node.ofText (memberIdentifier view.viewName)
          view.virtualPath).withModifiers Binding.readOnly.modifiers :=
  mem_viewFields keeps View.virtualPath fun _ => id

/-- The fields for the names of the views of a controller are those of the views that it shows. -/
theorem mem_children_viewNamesClass {controller : Controller} {views : List View}
    {node : Declaration.Node} (keeps : keepsGroup controller viewsGroup = true) :
    node ∈ (viewNamesClass controller views).children ↔
      ∃ view, showsView views view controller = true ∧
        node = (Declaration.Node.ofText (memberIdentifier view.viewName)
          view.viewName).withModifiers Binding.readOnly.modifiers :=
  mem_viewFields keeps View.viewName (by decide)

/-- A controller that has members for its views shows a view if this is the only one, belongs to the
controller and has a name like any other. -/
theorem showsView_singleton {controller : Controller} {view : View}
    (keeps : keepsGroup controller viewsGroup = true) (owns : controller.ownsView view = true)
    (free : memberIdentifier view.viewName ∉ reservedViewNames) :
    showsView [view] view controller = true := by
  have owned : ownedViews controller [view] = [view] := by
    rw [ownedViews, List.filter_cons, if_pos owns, List.filter_nil, List.filter_cons,
      if_pos (by simpa using free), List.filter_nil]
  rw [showsView_iff, owned, IsFirst, List.find?_cons, beq_self_eq_true]
  exact ⟨keeps, rfl⟩

/-! ## Owners -/

/-- Two controllers have no folder in common exactly if no view belongs to both. -/
theorem disjoint_folders_iff {c d : Controller} :
    (folders c).Disjoint (folders d) ↔
      ∀ view : View, ¬ (c.ownsView view = true ∧ d.ownsView view = true) := by
  simp only [ownsView_iff]
  constructor
  · intro apart view ⟨ofC, ofD⟩
    exact apart ofC ofD
  · intro apart folder ofC ofD
    obtain ⟨name, rfl⟩ := exists_lower_of_mem_folders ofC
    exact apart ⟨name, "Index", name⟩ ⟨ofC, ofD⟩

/-- Two controllers with members for their views have no folder in common exactly if no view is
shown by both. -/
theorem disjoint_folders_iff_of_keeps {c d : Controller}
    (keepsC : keepsGroup c viewsGroup = true) (keepsD : keepsGroup d viewsGroup = true) :
    (folders c).Disjoint (folders d) ↔
      ∀ shown : List View × View,
        ¬ (showsView shown.1 shown.2 c = true ∧ showsView shown.1 shown.2 d = true) := by
  rw [disjoint_folders_iff]
  have owned : ∀ {controller : Controller} {views : List View} {view : View},
      showsView views view controller = true → controller.ownsView view = true :=
    fun shows => (mem_ownedViews.mp (List.mem_of_find?_eq_some (showsView_iff.mp shows).2)).2.1
  constructor
  · intro apart shown ⟨byC, byD⟩
    exact apart shown.2 ⟨owned byC, owned byD⟩
  · -- Whether a view belongs to a controller is a matter of its folder, so it may be called Index.
    intro apart view ⟨ofC, ofD⟩
    have free : memberIdentifier "Index" ∉ reservedViewNames := by decide +kernel
    let index : View := { view with viewName := "Index" }
    exact apart ([index], index)
      ⟨showsView_singleton keepsC ofC free, showsView_singleton keepsD ofD free⟩

/-- Only controllers with members for their views show any. -/
theorem filter_showsView_of_keeps (controllers : List Controller) (views : List View)
    (view : View) :
    ((controllers.filter fun c => keepsGroup c viewsGroup).filter (showsView views view)) =
      controllers.filter (showsView views view) := by
  rw [List.filter_filter]
  refine List.filter_congr fun c _ => ?_
  cases shows : showsView views view c with
  | false => rfl
  | true => rw [(showsView_iff.mp shows).1, Bool.and_true]

/-- Every view belongs to at most one of some controllers exactly if no two of them have a folder in
common. Every view is shown by at most one of them, whatever other views there are, exactly if this
holds of those that have members for their views. -/
theorem ownsView_unique_iff (controllers : List Controller) :
    ((∀ view : View, (controllers.filter fun c => c.ownsView view).length ≤ 1) ↔
      controllers.Pairwise fun c d => (folders c).Disjoint (folders d)) ∧
    ((∀ (views : List View) (view : View),
        (controllers.filter (showsView views view)).length ≤ 1) ↔
      (controllers.filter fun c => keepsGroup c viewsGroup).Pairwise fun c d =>
        (folders c).Disjoint (folders d)) := by
  refine ⟨?_, ?_⟩
  · rw [forall_length_filter_le_one_iff fun view c => Controller.ownsView c view]
    simp only [disjoint_folders_iff]
  · have keeps : ∀ c ∈ controllers.filter fun c => keepsGroup c viewsGroup,
        keepsGroup c viewsGroup = true := fun c mem => (List.mem_filter.mp mem).2
    -- The views and the one view are one index, as one lemma is about all tests.
    rw [← Prod.forall (p := fun shown : List View × View =>
      (controllers.filter (showsView shown.1 shown.2)).length ≤ 1)]
    simp only [← filter_showsView_of_keeps controllers]
    rw [forall_length_filter_le_one_iff fun (shown : List View × View) c =>
      showsView shown.1 shown.2 c]
    constructor
    · exact List.Pairwise.imp_of_mem fun ofC ofD =>
        (disjoint_folders_iff_of_keeps (keeps _ ofC) (keeps _ ofD)).mpr
    · exact List.Pairwise.imp_of_mem fun ofC ofD =>
        (disjoint_folders_iff_of_keeps (keeps _ ofC) (keeps _ ofD)).mp

/-- The types `HomeController` and `homeController` do not collide, and the views in the folder
`Home` have fields in the parts of both. Nor do `HomeController` and `HomeControllerController`,
which share the folder `HomeController`. -/
theorem view_of_two_controllers :
    let home := Controller.ofType "HomeController" none "Controller"
    let other := Controller.ofType "homeController" none "Controller"
    let doubled := Controller.ofType "HomeControllerController" none "Controller"
    let index : View := ⟨"Home", "Index", "Views/Home/Index.cshtml"⟩
    let about : View := ⟨"HomeController", "About", "Views/HomeController/About.cshtml"⟩
    collision? [home, other] {} = none ∧
      (∀ c ∈ [home, other], c.ownsView index = true) ∧
      (∃ unit, generate [home, other] [index] [] {} = .ok unit ∧
        ∀ c ∈ [home, other], viewsClass c [index] ∈ unit.allClasses ∧
          (Declaration.Node.ofText "Index" "~/Views/Home/Index.cshtml").withModifiers
            Binding.readOnly.modifiers ∈ (viewsClass c [index]).children ∧
          (Declaration.Node.ofText "Index" "Index").withModifiers
            Binding.readOnly.modifiers ∈ (viewNamesClass c [index]).children) ∧
      collision? [home, doubled] {} = none ∧
      ∀ c ∈ [home, doubled], c.ownsView about = true := by
  intro home other doubled index about
  have apart : collision? [home, other] {} = none := by decide +kernel
  have owners : ∀ c ∈ [home, other], c.ownsView index = true := by decide +kernel
  have shown : ∀ c ∈ [home, other], showsView [index] index c = true := by decide +kernel
  have keeps : ∀ c ∈ [home, other], keepsGroup c viewsGroup = true :=
    fun c mem => (showsView_iff.mp (shown c mem)).1
  have ident : memberIdentifier index.viewName = "Index" := by decide +kernel
  refine ⟨apart, owners, ⟨_, generate_eq_ok_iff.mpr ⟨apart, rfl⟩, fun c mem => ⟨?_, ?_, ?_⟩⟩,
    by decide +kernel, by decide +kernel⟩
  · refine (mem_allClasses_generate (generate_eq_ok_iff.mpr ⟨apart, rfl⟩)).mpr
      (Or.inl ⟨c, mem, ?_⟩)
    rw [classes_controllerPart, if_pos (keeps c mem)]
    simp only [List.mem_cons, List.mem_append, true_or, or_true]
  · rw [children_viewsClass, List.mem_append, List.mem_cons]
    have path : index.virtualPath = "~/Views/Home/Index.cshtml" := by decide +kernel
    refine Or.inr (Or.inr ((mem_viewPathFields (keeps c mem)).mpr ⟨index, shown c mem, ?_⟩))
    rw [ident, path]
  · refine (mem_children_viewNamesClass (keeps c mem)).mpr ⟨index, shown c mem, ?_⟩
    rw [ident]

end TypedMvc.Synthesis
