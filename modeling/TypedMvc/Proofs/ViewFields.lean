import TypedMvc.Proofs.FieldPlaces
import TypedMvc.Proofs.ViewOwnership

/-!
# The fields for the views

The class of the views has a field for the path of a view, and the class inside it one for its name.
The two are made one after the other, and they start from different identifiers that are taken. As
no view with one of the reserved names gets that far, this makes no difference
(`comesFirst_canHaveField_iff`): both have fields for the same views in the same order, for those
that come first with their identifiers among the views of the controller (`viewsWithFields`).
`viewFields_agree` says so, and which views of the controller get no field.
-/

namespace TypedMvc.Synthesis

open Declaration Model Naming

variable {controller : Controller} {views : List View} {taken : List String}

/-- The views of a controller that get fields, each with its place among all views. -/
def viewsWithFields (controller : Controller) (views : List View) : List (View × ℕ) :=
  views.zipIdx.filter fun entry =>
    ComesFirst controller.ownsView View.viewName reservedViewNames views entry

/-- Whether a view can have a field for a controller. -/
def canHaveField (controller : Controller) (view : View) : Bool :=
  controller.ownsView view && !reservedViewNames.contains (memberIdentifier view.viewName)

/-- The views that can have a field are those of the controller without a reserved name. -/
theorem ownedViews_eq (controller : Controller) (views : List View) :
    ownedViews controller views = views.filter (canHaveField controller) := by
  rw [ownedViews, List.filter_filter]
  exact List.filter_congr fun view _ => Bool.and_comm _ _

/-- The reserved names may count as taken or be left out in front, which comes to the same. -/
theorem comesFirst_canHaveField_iff (reserved : ∀ name ∈ taken, name ∈ reservedViewNames)
    (entry : View × ℕ) :
    ComesFirst (canHaveField controller) View.viewName taken views entry ↔
      ComesFirst controller.ownsView View.viewName reservedViewNames views entry := by
  simp only [ComesFirst, canHaveField, Bool.and_eq_true, Bool.not_eq_true',
    List.contains_eq_mem, decide_eq_false_iff_not]
  constructor
  · rintro ⟨⟨own, free⟩, -, apart⟩
    refine ⟨own, free, fun other before owned same => ?_⟩
    exact apart other before ⟨owned, same ▸ free⟩ same
  · rintro ⟨own, free, apart⟩
    exact ⟨⟨own, free⟩, fun known => free (reserved _ known),
      fun other before can => apart other before can.1⟩

/-- The pairs that are made of the views that can have a field become the fields of
`viewsWithFields`. The views may be changed before in all but folder and name. -/
theorem firstByIdentifier_ownedViews (controller : Controller) (views : List View)
    (reserved : ∀ name ∈ taken, name ∈ reservedViewNames) (change : View × ℕ → View)
    (same : ∀ entry, (change entry).controllerName = entry.1.controllerName ∧
      (change entry).viewName = entry.1.viewName) (value : View → String) :
    firstByIdentifier taken ((ownedViews controller (views.zipIdx.map change)).map fun view =>
        (view.viewName, value view)) =
      (viewsWithFields controller views).map fun entry =>
        (memberIdentifier entry.1.viewName, value (change entry)) := by
  -- Whether a view can have a field depends on its folder and name only.
  have test : canHaveField controller ∘ change = fun entry => canHaveField controller entry.1 := by
    funext entry
    obtain ⟨folder, name⟩ := same entry
    simp only [Function.comp_apply, canHaveField, Controller.ownsView, folder, name]
  have pairs : (ownedViews controller (views.zipIdx.map change)).map (fun view =>
      (view.viewName, value view)) =
        (views.zipIdx.filter fun entry => canHaveField controller entry.1).map fun entry =>
          (entry.1.viewName, value (change entry)) := by
    rw [ownedViews_eq, List.filter_map, test, List.map_map]
    exact List.map_congr_left fun entry _ => congrArg (·, _) (same entry).2
  rw [pairs, firstByIdentifier_places, viewsWithFields]
  simp only [comesFirst_canHaveField_iff reserved]

/-- The fields with the paths of the views, which may be changed before in all but folder and
name. -/
theorem textFieldsOf_viewsClass (controller : Controller) (views : List View)
    (change : View × ℕ → View)
    (same : ∀ entry, (change entry).controllerName = entry.1.controllerName ∧
      (change entry).viewName = entry.1.viewName) :
    textFieldsOf (viewsClass controller (views.zipIdx.map change)) =
      (viewsWithFields controller views).map fun entry =>
        (memberIdentifier entry.1.viewName, (change entry).virtualPath) := by
  have textless : ∀ other ∈ singleton viewNamesClassName "s_ViewNames" "ViewNames" ++
      [viewNamesClass controller (views.zipIdx.map change)], other.text? = none := by
    rw [singleton, List.forall_mem_append, List.forall_mem_cons, List.forall_mem_singleton,
      List.forall_mem_singleton]
    exact ⟨⟨rfl, rfl⟩, rfl⟩
  have children := children_viewsClass controller (views.zipIdx.map change)
  rw [List.append_cons, viewPathFields] at children
  rw [textFieldsOf_of_children children textless]
  exact firstByIdentifier_ownedViews controller views (fun _ => id) change same View.virtualPath

/-- The fields with the names of the views. -/
theorem textPairs_viewNamesClass (controller : Controller) (views : List View) :
    textPairs (viewNamesClass controller views) =
      (viewsWithFields controller views).map fun entry =>
        (memberIdentifier entry.1.viewName, some entry.1.viewName) := by
  have reserved : ∀ name ∈ [viewNamesClassName], name ∈ reservedViewNames := by decide
  have fields := firstByIdentifier_ownedViews controller views reserved Prod.fst
    (fun _ => ⟨rfl, rfl⟩) View.viewName
  rw [List.zipIdx_map_fst] at fields
  rw [viewNamesClass, textPairs_textMembersClass, fields, List.map_map]
  rfl

/-- A view of a controller gets no field exactly if its name is reserved or another one of the
controller in front of it has the same identifier. -/
theorem not_mem_viewsWithFields_iff {entry : View × ℕ} (mem : entry ∈ views.zipIdx)
    (owned : controller.ownsView entry.1 = true) :
    entry ∉ viewsWithFields controller views ↔
      memberIdentifier entry.1.viewName ∈ reservedViewNames ∨
        ∃ other ∈ views.take entry.2, controller.ownsView other = true ∧
          memberIdentifier other.viewName = memberIdentifier entry.1.viewName := by
  rw [viewsWithFields, List.mem_filter, and_iff_right mem, decide_eq_true_eq, ComesFirst,
    and_iff_right owned, Decidable.not_and_iff_not_or_not, not_not]
  simp only [not_forall, not_not, exists_prop]

/-- There is one class inside the class of the views. -/
theorem childrenOf_viewsClass (controller : Controller) (views : List View) :
    (viewsClass controller views).childrenOf .classKind = [viewNamesClass controller views] := by
  have noClass : ∀ {nodes : List Node}, (∀ node ∈ nodes, node.IsLeaf) →
      nodes.filter (fun child => child.kind == .classKind) = [] := by
    intro nodes leaves
    refine List.filter_eq_nil_iff.mpr fun node mem => ?_
    simpa using (leaves node mem).notClass
  have isClass : ((viewNamesClass controller views).kind == .classKind) = true := rfl
  rw [Node.childrenOf, children_viewsClass, List.filter_append, noClass isLeaf_singleton,
    List.nil_append, List.filter_cons, if_pos isClass, viewPathFields,
    noClass isLeaf_uniqueTextFields]

/-- Views of other controllers are passed over. -/
theorem viewsClass_filter (controller : Controller) (views : List View) :
    viewsClass controller (views.filter controller.ownsView) = viewsClass controller views := by
  have same : ownedViews controller (views.filter controller.ownsView) =
      ownedViews controller views := by
    rw [ownedViews, ownedViews, List.filter_filter (l := views)]
    simp only [Bool.and_self]
  rw [viewsClass, viewsClass, same]

/-- The class of the views has one class inside it. Its fields and the fields with texts of the
class around it are for the same views in the same order and have the same names; one holds the
path of its view from the root of the application, with slashes, and the other the name of the
view. The views are some of those of the controller in their order: one gets no field exactly if
its name is reserved or an earlier one has the same identifier. Views of other controllers make no
difference. -/
theorem viewFields_agree (controller : Controller) (views : List View) :
    let shown := viewsWithFields controller views
    textFieldsOf (viewsClass controller views) = shown.map (fun entry =>
        (memberIdentifier entry.1.viewName, "~/" ++ normalizeSeparators entry.1.relativePath)) ∧
      (∃ inner, (viewsClass controller views).childrenOf .classKind = [inner] ∧
        inner.name = viewNamesClassName ∧
        textPairs inner = shown.map fun entry =>
          (memberIdentifier entry.1.viewName, some entry.1.viewName)) ∧
      shown.Sublist views.zipIdx ∧
      (∀ entry ∈ shown, controller.ownsView entry.1 = true) ∧
      (∀ entry ∈ views.zipIdx, controller.ownsView entry.1 = true →
        (entry ∉ shown ↔ memberIdentifier entry.1.viewName ∈ reservedViewNames ∨
          ∃ other ∈ views.take entry.2, controller.ownsView other = true ∧
            memberIdentifier other.viewName = memberIdentifier entry.1.viewName)) ∧
      viewsClass controller views = viewsClass controller (views.filter controller.ownsView) := by
  intro shown
  refine ⟨?_, ⟨viewNamesClass controller views, childrenOf_viewsClass controller views, rfl,
    textPairs_viewNamesClass controller views⟩, List.filter_sublist, fun entry mem => ?_,
    fun entry mem owned => not_mem_viewsWithFields_iff mem owned,
    (viewsClass_filter controller views).symm⟩
  · have fields := textFieldsOf_viewsClass controller views Prod.fst fun _ => ⟨rfl, rfl⟩
    rwa [List.zipIdx_map_fst] at fields
  · exact (of_decide_eq_true (List.mem_filter.mp mem).2).1

/-- Of four views of a controller one has a reserved name and two become the same identifier. One
more is in the folder of another controller. Two views get fields, and each of the others has its
reason to get none. -/
theorem viewFields_agree_clashing :
    let home := Controller.ofType "HomeController" none "Controller"
    let views : List View := [
      ⟨"Account", "Index.wide", "Views/Account/Index.wide.cshtml"⟩,
      ⟨"Home", "ViewNames", "Views/Home/ViewNames.cshtml"⟩,
      ⟨"home", "Index.wide", "Views\\home\\Index.wide.cshtml"⟩,
      ⟨"HomeController", "Index_wide", "Views/HomeController/Index_wide.cshtml"⟩,
      ⟨"Home", "About", "Views/Home/About.cshtml"⟩]
    textFieldsOf (viewsClass home views) =
        [("Index_wide", "~/Views/home/Index.wide.cshtml"), ("About", "~/Views/Home/About.cshtml")] ∧
      textPairs (viewNamesClass home views) =
        [("Index_wide", some "Index.wide"), ("About", some "About")] ∧
      ∀ entry ∈ views.zipIdx, home.ownsView entry.1 = true →
        (entry.2 = 1 ∨ entry.2 = 3 ↔ memberIdentifier entry.1.viewName ∈ reservedViewNames ∨
          ∃ other ∈ views.take entry.2, home.ownsView other = true ∧
            memberIdentifier other.viewName = memberIdentifier entry.1.viewName) := by
  intro home views
  obtain ⟨paths, ⟨inner, only, -, names⟩, -, -, missing, -⟩ := viewFields_agree home views
  obtain rfl : inner = viewNamesClass home views := by
    rw [childrenOf_viewsClass] at only
    exact (List.cons.inj only).1.symm
  have shown : viewsWithFields home views =
      [(⟨"home", "Index.wide", "Views\\home\\Index.wide.cshtml"⟩, 2),
        (⟨"Home", "About", "Views/Home/About.cshtml"⟩, 4)] := by decide +kernel
  rw [shown] at paths names
  refine ⟨paths.trans (by decide +kernel), names.trans (by decide +kernel), ?_⟩
  intro entry mem owned
  rw [← missing entry mem owned, shown]
  revert entry
  decide +kernel

end TypedMvc.Synthesis
