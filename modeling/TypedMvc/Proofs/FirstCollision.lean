import TypedMvc.Proofs.ClassMembers

/-!
# Which collision is reported

The check for collisions takes the controllers one by one. What it says of one controller depends on
those in front of it only (`collisionAt?`), and the first controller of which it says anything ends
it (`collisionFrom_eq_some_iff`). As long as it says nothing, the fields of the controllers passed
are different ones (`eq_of_fieldNameOf_eq`), so a controller that collides with one of them collides
with no other (`collisionAt?_take_eq_some_iff`). `collision?_reports` puts both together: there is
no report exactly if no controller collides, and otherwise it is about the first one that does.
-/

namespace TypedMvc.Synthesis

open Model Naming

variable {helpersPrefix : String} {seen controllers : List Controller} {report : Collision}

/-! ## One controller -/

/-- The collision of a controller with the class or with one of those already seen. -/
def collisionAt? (helpersPrefix : String) (seen : List Controller) (controller : Controller) :
    Option Collision :=
  let field := fieldNameOf controller
  if field = helpersPrefix then some ⟨field, helpersPrefix, controller.qualifiedReference⟩
  else
    (seen.find? fun earlier => fieldNameOf earlier == field).map fun earlier =>
      ⟨field, earlier.qualifiedReference, controller.qualifiedReference⟩

/-- The check goes on behind a controller exactly if this does not collide. -/
theorem collisionFrom_cons (controller : Controller) (rest : List Controller) :
    collisionFrom helpersPrefix seen (controller :: rest) =
      (collisionAt? helpersPrefix seen controller).or
        (collisionFrom helpersPrefix (controller :: seen) rest) := by
  rw [collisionFrom, collisionAt?]
  split
  · rfl
  · cases seen.find? fun earlier => fieldNameOf earlier == fieldNameOf controller <;> rfl

/-- There is a report exactly if it is about some controller, and nothing is said of those in front
of this one. -/
theorem collisionFrom_eq_some_iff :
    collisionFrom helpersPrefix seen controllers = some report ↔
      ∃ passed controller rest, controllers = passed ++ controller :: rest ∧
        collisionFrom helpersPrefix seen passed = none ∧
        collisionAt? helpersPrefix (passed.reverse ++ seen) controller = some report := by
  induction controllers generalizing seen with
  | nil => simp [collisionFrom]
  | cons first rest ih =>
    rw [collisionFrom_cons]
    -- The first controller is reported, or one behind it after the first has passed.
    constructor
    · intro reported
      cases verdict : collisionAt? helpersPrefix seen first with
      | some own =>
        rw [verdict, Option.some_or] at reported
        exact ⟨[], first, rest, rfl, rfl, verdict.trans reported⟩
      | none =>
        rw [verdict, Option.none_or] at reported
        obtain ⟨passed, controller, behind, rfl, silent, found⟩ := ih.mp reported
        refine ⟨first :: passed, controller, behind, rfl, ?_, ?_⟩
        · rw [collisionFrom_cons, verdict, Option.none_or, silent]
        · rwa [List.reverse_cons, List.append_assoc]
    · rintro ⟨passed, controller, behind, split, silent, found⟩
      cases passed with
      | nil =>
        obtain ⟨rfl, rfl⟩ := List.cons.inj split
        rw [List.reverse_nil, List.nil_append] at found
        rw [found, Option.some_or]
      | cons other passed =>
        obtain ⟨rfl, rfl⟩ := List.cons.inj split
        rw [collisionFrom_cons, Option.or_eq_none_iff] at silent
        rw [silent.1, Option.none_or, ih]
        refine ⟨passed, controller, behind, rfl, silent.2, ?_⟩
        rwa [List.reverse_cons, List.append_assoc] at found

/-! ## Controllers by their places -/

/-- The controller at a place collides: its field is called like the class, or like the field of a
controller in front of it. -/
def CollidesAt (helpersPrefix : String) (controllers : List Controller) (j : ℕ) : Prop :=
  ∃ inside : j < controllers.length,
    fieldNameOf controllers[j] = helpersPrefix ∨
      ∃ i, ∃ before : i < j, fieldNameOf controllers[i] = fieldNameOf controllers[j]

/-- Whether a controller collides does not depend on those behind it. -/
theorem collidesAt_take {j k : ℕ} :
    CollidesAt helpersPrefix (controllers.take j) k ↔
      k < j ∧ CollidesAt helpersPrefix controllers k := by
  unfold CollidesAt
  simp only [List.getElem_take, List.length_take, Nat.lt_min]
  constructor
  · rintro ⟨⟨before, inside⟩, collides⟩
    exact ⟨before, inside, collides⟩
  · rintro ⟨before, inside, collides⟩
    exact ⟨⟨before, inside⟩, collides⟩

/-- The check says nothing exactly if no controller collides. -/
theorem collisionFrom_eq_none_iff_forall :
    collisionFrom helpersPrefix [] controllers = none ↔
      ∀ k, ¬ CollidesAt helpersPrefix controllers k := by
  rw [collisionFrom_eq_none_iff, List.Nodup, List.pairwise_map, List.pairwise_iff_getElem]
  constructor
  · rintro ⟨apart, free⟩ k ⟨inside, own | ⟨i, before, same⟩⟩
    · exact (free _ (List.getElem_mem inside)).1 own
    · exact apart i k (by omega) inside before same
  · intro silent
    refine ⟨fun i k _ inside before same => silent k ⟨inside, Or.inr ⟨i, before, same⟩⟩, ?_⟩
    intro controller mem
    obtain ⟨k, inside, rfl⟩ := List.getElem_of_mem mem
    exact ⟨fun own => silent k ⟨inside, Or.inl own⟩, List.forall_mem_nil _⟩

/-- Controllers that do not collide have different fields. -/
theorem eq_of_fieldNameOf_eq {i k j : ℕ}
    (silent : ∀ k < j, ¬ CollidesAt helpersPrefix controllers k)
    (insideI : i < controllers.length) (insideK : k < controllers.length) (beforeI : i < j)
    (beforeK : k < j) (same : fieldNameOf controllers[i] = fieldNameOf controllers[k]) :
    i = k := by
  rcases Nat.lt_trichotomy i k with less | equal | greater
  · exact absurd ⟨insideK, Or.inr ⟨i, less, same⟩⟩ (silent k beforeK)
  · exact equal
  · exact absurd ⟨insideI, Or.inr ⟨k, greater, same.symm⟩⟩ (silent i beforeI)

/-- A report is about the controller at a place: it names the field, what has this name already, and
the controller. The class comes before any controller that has it. -/
structure IsReportAt (helpersPrefix : String) (controllers : List Controller) (j : ℕ)
    (inside : j < controllers.length) (report : Collision) : Prop where
  /-- The field is that of the controller. -/
  field : report.field = fieldNameOf controllers[j]
  /-- The controller comes second. -/
  second : report.second = controllers[j].qualifiedReference
  /-- The class comes first, if it has the name. -/
  ofClass : fieldNameOf controllers[j] = helpersPrefix → report.first = helpersPrefix
  /-- Otherwise the only controller in front with a field of the name comes first. -/
  ofEarlier : fieldNameOf controllers[j] ≠ helpersPrefix →
    ∃ i, ∃ before : i < j, report.first = controllers[i].qualifiedReference ∧
      ∀ k, ∀ earlier : k < j, fieldNameOf controllers[k] = fieldNameOf controllers[j] ↔ k = i

/-- A controller that is found among those in front stands at one of their places. -/
theorem exists_place_of_find? {j : ℕ} {field : String} {earlier : Controller}
    (found : (controllers.take j).reverse.find? (fun c => fieldNameOf c == field) =
      some earlier) :
    ∃ i, ∃ inside : i < controllers.length,
      i < j ∧ controllers[i] = earlier ∧ fieldNameOf controllers[i] = field := by
  have mem : earlier ∈ controllers.take j :=
    List.mem_reverse.mp (List.mem_of_find?_eq_some found)
  obtain ⟨i, inside, rfl⟩ := List.mem_take_iff_getElem.mp mem
  obtain ⟨before, inside⟩ := Nat.lt_min.mp inside
  exact ⟨i, inside, before, rfl, by simpa using List.find?_some found⟩

/-- If no controller in front collides, a report on one says that it does, and with what. -/
theorem collisionAt?_take_eq_some_iff {j : ℕ}
    (silent : ∀ k < j, ¬ CollidesAt helpersPrefix controllers k)
    (inside : j < controllers.length) :
    collisionAt? helpersPrefix (controllers.take j).reverse controllers[j] = some report ↔
      CollidesAt helpersPrefix controllers j ∧
        IsReportAt helpersPrefix controllers j inside report := by
  unfold collisionAt?
  by_cases own : fieldNameOf controllers[j] = helpersPrefix
  · -- The class has the name, whatever is in front.
    rw [if_pos own, Option.some.injEq]
    constructor
    · rintro rfl
      exact ⟨⟨inside, Or.inl own⟩, rfl, rfl, fun _ => rfl, fun other => absurd own other⟩
    · rintro ⟨-, isReport⟩
      obtain ⟨field, first, second⟩ := report
      rw [Collision.mk.injEq]
      exact ⟨isReport.field.symm, (isReport.ofClass own).symm, isReport.second.symm⟩
  · rw [if_neg own, Option.map_eq_some_iff]
    constructor
    · rintro ⟨earlier, found, rfl⟩
      obtain ⟨i, insideI, before, rfl, same⟩ := exists_place_of_find? found
      refine ⟨⟨inside, Or.inr ⟨i, before, same⟩⟩, rfl, rfl, fun is => absurd is own, fun _ => ?_⟩
      refine ⟨i, before, rfl, fun k earlier => ⟨fun again => ?_, ?_⟩⟩
      · exact eq_of_fieldNameOf_eq silent (by omega) insideI earlier before
          (again.trans same.symm)
      · rintro rfl
        exact same
    · rintro ⟨-, isReport⟩
      obtain ⟨i, before, first_eq, only⟩ := isReport.ofEarlier own
      have same : fieldNameOf controllers[i] = fieldNameOf controllers[j] :=
        (only i before).mpr rfl
      have mem : controllers[i] ∈ (controllers.take j).reverse :=
        List.mem_reverse.mpr (List.mem_take_iff_getElem.mpr ⟨i, by omega, rfl⟩)
      -- A controller with the field is found, and there is only this one.
      cases found : (controllers.take j).reverse.find?
          fun earlier => fieldNameOf earlier == fieldNameOf controllers[j] with
      | none => exact absurd same (by simpa using List.find?_eq_none.mp found _ mem)
      | some earlier =>
        obtain ⟨k, insideK, beforeK, rfl, again⟩ := exists_place_of_find? found
        obtain rfl : k = i := (only k beforeK).mp again
        obtain ⟨field, first, second⟩ := report
        refine ⟨controllers[k], rfl, ?_⟩
        rw [Collision.mk.injEq]
        exact ⟨isReport.field.symm, first_eq.symm, isReport.second.symm⟩

/-! ## The check -/

/-- The check for collisions passes exactly if the fields of the controllers have distinct names and
none is called like the class. Otherwise it reports the first controller that collides, and with it
what has the name already: the class, or else the only controller in front of it that has. -/
theorem collision?_reports (controllers : List Controller) (settings : Settings.Generation) :
    (collision? controllers settings = none ↔
      (controllers.map fun controller => memberIdentifier controller.name).Nodup ∧
        ∀ controller ∈ controllers,
          memberIdentifier controller.name ≠ settings.helpersPrefix) ∧
    ∀ report, collision? controllers settings = some report ↔
      ∃ j, ∃ inside : j < controllers.length,
        CollidesAt settings.helpersPrefix controllers j ∧
        (∀ k < j, ¬ CollidesAt settings.helpersPrefix controllers k) ∧
        IsReportAt settings.helpersPrefix controllers j inside report := by
  constructor
  · rw [collision?, collisionFrom_eq_none_iff]
    simp only [List.not_mem_nil, false_imp_iff, implies_true, and_true]
    rfl
  · intro report
    -- The controllers in front pass exactly if none of them collides.
    have passes : ∀ j, collisionFrom settings.helpersPrefix [] (controllers.take j) = none ↔
        ∀ k < j, ¬ CollidesAt settings.helpersPrefix controllers k := by
      intro j
      simp only [collisionFrom_eq_none_iff_forall, collidesAt_take, not_and]
    rw [collision?, collisionFrom_eq_some_iff]
    constructor
    · rintro ⟨passed, controller, rest, rfl, silent, found⟩
      have inside : passed.length < (passed ++ controller :: rest).length := by simp
      have front : (passed ++ controller :: rest).take passed.length = passed := List.take_left
      have here : (passed ++ controller :: rest)[passed.length] = controller := by simp
      have silentBefore := (passes passed.length).mp (front.symm ▸ silent)
      have verdict : collisionAt? settings.helpersPrefix
          ((passed ++ controller :: rest).take passed.length).reverse
          (passed ++ controller :: rest)[passed.length] = some report := by
        rw [front, here, ← found, List.append_nil]
      obtain ⟨collides, isReport⟩ := (collisionAt?_take_eq_some_iff silentBefore inside).mp verdict
      exact ⟨passed.length, inside, collides, silentBefore, isReport⟩
    · rintro ⟨j, inside, collides, silent, isReport⟩
      refine ⟨controllers.take j, controllers[j], controllers.drop (j + 1), ?_,
        (passes j).mpr silent, ?_⟩
      · rw [← List.drop_eq_getElem_cons inside, List.take_append_drop]
      · rw [List.append_nil]
        exact (collisionAt?_take_eq_some_iff silent inside).mpr ⟨collides, isReport⟩

end TypedMvc.Synthesis
