import TypedMvc.Model.Controller
import TypedMvc.Proofs.Occurrences

/-!
# Overloaded actions

Two recursions go through the names of the actions. One keeps each name it meets for the first time
and the other each name it meets for the second time, so both list occurrences
(`listsOccurrences_uniqueActionNames`, `listsOccurrences_overloadedActions`). The second one carries
two lists, the names that it has met and those that it has met again, which is to say the names that
stand at least once and at least twice in what it has gone through. `actionNames_overloads` draws
from this what either list holds, and that they tell of the same actions.
-/

namespace TypedMvc.Model.Controller

variable {controller : Controller} {before seen repeated listed : List String}

/-- Names that are kept at the first meeting add their first occurrences to those in front. -/
theorem listsOccurrences_distinctFrom (lists : ListsOccurrences 0 before listed)
    (hasSeen : HasOften 0 before seen) (names : List String) :
    ListsOccurrences 0 (before ++ names) (listed ++ distinctFrom seen names) := by
  induction names generalizing before seen listed with
  | nil => simpa [distinctFrom] using lists
  | cons name rest ih =>
    have step := lists.concat name
    rw [distinctFrom, List.append_cons before]
    by_cases known : name ∈ seen
    · have before : before.count name ≠ 0 := Nat.ne_of_gt ((hasSeen name).mp known)
      rw [if_neg before] at step
      rw [if_pos known]
      exact ih step (hasSeen.keep before)
    · have isFirst : before.count name = 0 := Nat.eq_zero_of_not_pos (mt (hasSeen name).mpr known)
      rw [if_pos isFirst] at step
      rw [if_neg known, List.append_cons listed]
      exact ih step (hasSeen.cons isFirst)

/-- Names that are kept at the second meeting add their second occurrences to those in front. -/
theorem listsOccurrences_repeatedFrom (lists : ListsOccurrences 1 before listed)
    (hasSeen : HasOften 0 before seen) (hasRepeated : HasOften 1 before repeated)
    (names : List String) :
    ListsOccurrences 1 (before ++ names) (listed ++ repeatedFrom seen repeated names) := by
  induction names generalizing before seen repeated listed with
  | nil => simpa [repeatedFrom] using lists
  | cons name rest ih =>
    have step := lists.concat name
    rw [repeatedFrom, List.append_cons before]
    -- The name is met for the first time, for the second time, or again after that.
    by_cases known : name ∈ seen
    · have atLeastOnce := (hasSeen name).mp known
      rw [if_pos known]
      by_cases again : name ∈ repeated
      · have atLeastTwice := (hasRepeated name).mp again
        rw [if_neg (by omega)] at step
        rw [if_pos again]
        exact ih step (hasSeen.keep (by omega)) (hasRepeated.keep (by omega))
      · have atMostOnce := mt (hasRepeated name).mpr again
        have isSecond : before.count name = 1 := by omega
        rw [if_pos isSecond] at step
        rw [if_neg again, List.append_cons listed]
        exact ih step (hasSeen.keep (by omega)) (hasRepeated.cons isSecond)
    · have never := mt (hasSeen name).mpr known
      have isFirst : before.count name = 0 := by omega
      rw [if_neg (by omega)] at step
      rw [if_neg known]
      exact ih step (hasSeen.cons isFirst) (hasRepeated.keep (by omega))

/-- The names of the actions are listed at their first occurrences. -/
theorem listsOccurrences_uniqueActionNames (controller : Controller) :
    ListsOccurrences 0 (controller.actions.map (·.name)) controller.uniqueActionNames :=
  listsOccurrences_distinctFrom (listsOccurrences_nil 0) (listsOccurrences_nil 0).mem_iff _

/-- The names of overloaded actions are listed at their second occurrences. -/
theorem listsOccurrences_overloadedActions (controller : Controller) :
    ListsOccurrences 1 (controller.actions.map (·.name)) controller.overloadedActions :=
  listsOccurrences_repeatedFrom (listsOccurrences_nil 1) (listsOccurrences_nil 0).mem_iff
    (listsOccurrences_nil 1).mem_iff _

/-- The unique names of the actions are all of their names, each once, in the order in which they
occur for the first time, and the overloaded ones are those that at least two actions have, each
once, in the order in which they occur for the second time. There are fewer unique names than
actions exactly if some name is overloaded. -/
theorem actionNames_overloads (controller : Controller) :
    let names := controller.actions.map (·.name)
    (controller.uniqueActionNames.Nodup ∧
      (∀ name, name ∈ controller.uniqueActionNames ↔
        ∃ action ∈ controller.actions, action.name = name) ∧
      controller.uniqueActionNames.Pairwise fun a b =>
        ∃ i j, i < j ∧ IsOccurrence names 0 i a ∧ IsOccurrence names 0 j b) ∧
    (controller.overloadedActions.Nodup ∧
      (∀ name, name ∈ controller.overloadedActions ↔
        2 ≤ (controller.actions.filter fun action => action.name = name).length) ∧
      controller.overloadedActions.Pairwise fun a b =>
        ∃ i j, i < j ∧ IsOccurrence names 1 i a ∧ IsOccurrence names 1 j b) ∧
    (controller.uniqueActionNames.length < controller.actions.length ↔
      controller.overloadedActions ≠ []) := by
  intro names
  have unique := listsOccurrences_uniqueActionNames controller
  have overloaded := listsOccurrences_overloadedActions controller
  refine ⟨⟨unique.nodup, fun name => ?_, unique.ordered⟩,
    ⟨overloaded.nodup, fun name => ?_, overloaded.ordered⟩, ?_⟩
  · rw [unique.mem_iff name, List.count_pos_iff, List.mem_map]
  · have count : names.count name =
        (controller.actions.filter fun action => action.name = name).length := by
      rw [List.count, List.countP_map, List.countP_eq_length_filter]
      rfl
    rw [overloaded.mem_iff name, count, Nat.lt_iff_add_one_le]
  · have length : names.length = controller.actions.length := List.length_map _
    rw [← length]
    exact length_lt_iff unique overloaded

/-- Three actions of one name are one overload, reported where the second one stands. -/
example :
    let home := (((((ofType "HomeController" none "Controller").withAction "Edit").withAction
      "Index").withAction "Index").withAction "Edit").withAction "Index"
    home.uniqueActionNames = ["Edit", "Index"] ∧ home.overloadedActions = ["Index", "Edit"] := by
  decide +kernel

end TypedMvc.Model.Controller
