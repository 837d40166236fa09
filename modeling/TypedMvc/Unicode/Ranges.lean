/-!
# Sets of code points

The character classes of Unicode are written down as lists of closed intervals of code points. A
class is tested by looking for an interval that holds the character, so membership is a plain
disjunction that evaluates.
-/

namespace TypedMvc.Unicode

/-- A set of code points as closed intervals in increasing order. -/
abbrev Ranges := List (Nat × Nat)

/-- Whether one of the intervals holds the character. -/
def Ranges.has (ranges : Ranges) (c : Char) : Bool :=
  ranges.any fun r => r.1 ≤ c.toNat && c.toNat ≤ r.2

/-- Membership is the existence of an interval that holds the character. -/
theorem Ranges.has_iff {ranges : Ranges} {c : Char} :
    ranges.has c = true ↔ ∃ r ∈ ranges, r.1 ≤ c.toNat ∧ c.toNat ≤ r.2 := by
  simp [Ranges.has, List.any_eq_true]

end TypedMvc.Unicode
