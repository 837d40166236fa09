import Mathlib.Tactic.SplitIfs
import TypedMvc.Controllers.Discovery

/-!
# Which types are controllers

`classify` asks one question after the other and gives a reason at the first wrong answer.
`classify_eq_controller_iff` says what all the answers have to be: the type is a candidate by its
own declaration, and it says that it is a controller or inherits from one of the framework.
-/

namespace TypedMvc.Controllers

open Symbols

/-- What the convention asks of a type apart from its bases. -/
def IsCandidate (suffix : String) (type : TypeSymbol) : Prop :=
  type.kind = .classType ∧ type.containingType = none ∧ hasProperSuffix type.name suffix = true ∧
    type.hasModifier "public" = true ∧ type.hasModifier "abstract" = false ∧
    type.hasModifier "static" = false ∧ type.genericArity = 0 ∧
    type.hasAttribute "NonController" = false

instance (suffix : String) (type : TypeSymbol) : Decidable (IsCandidate suffix type) :=
  inferInstanceAs (Decidable (_ ∧ _))

/-- A controller is a candidate that says so or has a base of the framework. -/
theorem classify_eq_controller_iff {suffix : String} {snapshot : Snapshot} {type : TypeSymbol} :
    classify suffix snapshot type = .controller ↔
      IsCandidate suffix type ∧
        (type.hasAttribute "Controller" = true ∨
          snapshot.inheritsFrom type frameworkBases = true) := by
  unfold classify IsCandidate
  constructor
  · intro shape
    split_ifs at shape with kind container suffix visible abstract static generic optedOut base
    refine ⟨⟨by simpa using kind, by simpa using container, by simpa using suffix,
      by simpa using visible, by simpa using abstract, by simpa using static, by omega,
      by simpa using optedOut⟩, by simpa using base⟩
  · rintro ⟨⟨kind, container, suffix, visible, abstract, static, generic, optedOut⟩, base⟩
    rw [if_neg (by simpa using kind), if_neg (by simp [container]), if_neg (by simp [suffix]),
      if_neg (by simp [visible]), if_neg (by simp [abstract]), if_neg (by simp [static]),
      if_neg (by omega), if_neg (by simp [optedOut]), if_pos (by simpa using base)]

end TypedMvc.Controllers
