import Mathlib.Data.List.Basic
import TypedMvc.Naming.Matching

/-!
# Names that differ in case only

`eqIgnoreCase` compares two names twice, once by the case of ASCII letters and once by full
lower-casing. The first comparison adds nothing to the second: whatever stands around them, an
ASCII letter and its lower-case form are lower-cased to the same, are cased alike, and have the same
effect on a sigma nearby (`lowerFrom_map_lowerAscii`). So two names differ in case only exactly if
they have one lower-case form (`eqIgnoreCase_iff`).
-/

namespace TypedMvc.Unicode

/-- What holds of the capital ASCII letters, and of all characters that are their own lower-case
form in ASCII, holds of all characters. -/
theorem forall_of_capitals {p : Char → Prop}
    (capitals : ∀ n : Nat, n < 26 → p (Char.ofNat (65 + n)))
    (fixed : ∀ c, lowerAscii c = c → p c) (c : Char) : p c := by
  by_cases capital : 'A' ≤ c ∧ c ≤ 'Z'
  · have low : 65 ≤ c.toNat := capital.1
    have high : c.toNat ≤ 90 := capital.2
    have holds := capitals (c.toNat - 65) (by omega)
    rwa [Nat.add_sub_cancel' low, Char.ofNat_toNat] at holds
  · exact fixed c (if_neg capital)

/-- A set has no character between two bounds if none of its intervals reaches there. -/
theorem Ranges.has_eq_false {ranges : Ranges} {low high : Nat} {c : Char}
    (clear : ranges.all (fun r => r.2 < low || high < r.1) = true)
    (inside : low ≤ c.toNat ∧ c.toNat ≤ high) : ranges.has c = false := by
  rw [Ranges.has, List.any_eq_false]
  intro r mem
  have apart := List.all_eq_true.mp clear r mem
  simp only [Bool.or_eq_true, decide_eq_true_eq] at apart
  simp only [Bool.and_eq_true, decide_eq_true_eq]
  omega

/-- No ASCII letter is skipped when looking for case. -/
theorem isCaseIgnorable_letter {c : Char} (letter : 65 ≤ c.toNat ∧ c.toNat ≤ 90 ∨
    97 ≤ c.toNat ∧ c.toNat ≤ 122) : isCaseIgnorable c = false := by
  -- No interval of the three tables meets the letters.
  rw [isCaseIgnorable]
  rcases letter with inside | inside
  · rw [Ranges.has_eq_false (by decide +kernel) inside,
      Ranges.has_eq_false (by decide +kernel) inside,
      Ranges.has_eq_false (by decide +kernel) inside]
    rfl
  · rw [Ranges.has_eq_false (by decide +kernel) inside,
      Ranges.has_eq_false (by decide +kernel) inside,
      Ranges.has_eq_false (by decide +kernel) inside]
    rfl

/-- The lower-case form in ASCII is lower-cased like the character itself. -/
theorem lowerChar_lowerAscii (c : Char) : lowerChar (lowerAscii c) = lowerChar c := by
  revert c
  exact forall_of_capitals (by decide +kernel) fun c fixed => by rw [fixed]

/-- The lower-case form in ASCII is cased exactly if the character itself is. -/
theorem isCased_lowerAscii (c : Char) : isCased (lowerAscii c) = isCased c := by
  revert c
  exact forall_of_capitals (by decide +kernel) fun c fixed => by rw [fixed]

/-- The lower-case form in ASCII is skipped exactly if the character itself is. -/
theorem isCaseIgnorable_lowerAscii (c : Char) :
    isCaseIgnorable (lowerAscii c) = isCaseIgnorable c := by
  have letters : ∀ n : Nat, n < 26 → (65 ≤ (Char.ofNat (65 + n)).toNat ∧
      (Char.ofNat (65 + n)).toNat ≤ 90) ∧ 97 ≤ (lowerAscii (Char.ofNat (65 + n))).toNat ∧
        (lowerAscii (Char.ofNat (65 + n))).toNat ≤ 122 := by decide +kernel
  revert c
  refine forall_of_capitals (fun n bound => ?_) fun c fixed => by rw [fixed]
  rw [isCaseIgnorable_letter (Or.inl (letters n bound).1),
    isCaseIgnorable_letter (Or.inr (letters n bound).2)]

/-- A capital sigma is no ASCII letter and none becomes one. -/
theorem lowerAscii_eq_capitalSigma_iff (c : Char) :
    lowerAscii c = capitalSigma ↔ c = capitalSigma := by
  revert c
  exact forall_of_capitals (by decide +kernel) fun c fixed => by rw [fixed]

/-- Whether a cased character comes next does not depend on the case of ASCII letters. -/
theorem casedAhead_map_lowerAscii (text : List Char) :
    casedAhead (text.map lowerAscii) = casedAhead text := by
  have skipped : (isCaseIgnorable ∘ lowerAscii) = isCaseIgnorable :=
    funext isCaseIgnorable_lowerAscii
  unfold casedAhead
  rw [List.dropWhile_map, skipped]
  cases text.dropWhile isCaseIgnorable with
  | nil => rfl
  | cons c rest => exact isCased_lowerAscii c

/-- Lower-casing does not depend on the case of ASCII letters, in the text or in front of it. -/
theorem lowerFrom_map_lowerAscii (before text : List Char) :
    lowerFrom (before.map lowerAscii) (text.map lowerAscii) = lowerFrom before text := by
  induction text generalizing before with
  | nil => rfl
  | cons c rest ih =>
    have later := ih (c :: before)
    rw [List.map_cons] at later
    -- What becomes of a sigma depends on which characters around it are cased.
    have sigma : lowerSigma (before.map lowerAscii) (rest.map lowerAscii) =
        lowerSigma before rest := by
      rw [lowerSigma, lowerSigma, casedAhead_map_lowerAscii, casedAhead_map_lowerAscii]
    rw [List.map_cons, lowerFrom, lowerFrom, later, sigma, lowerChar_lowerAscii]
    simp only [lowerAscii_eq_capitalSigma_iff]

end TypedMvc.Unicode

namespace TypedMvc.Naming

open Unicode

/-- Names that differ in the case of ASCII letters only have the same lower-case form. -/
theorem lower_eq_of_eqIgnoreAsciiCase {a b : String} (same : eqIgnoreAsciiCase a b = true) :
    lower a = lower b := by
  have chars : a.toList.map lowerAscii = b.toList.map lowerAscii := by
    simpa [eqIgnoreAsciiCase] using same
  have lowered := lowerFrom_map_lowerAscii [] a.toList
  rw [chars, lowerFrom_map_lowerAscii [] b.toList] at lowered
  rw [lower, lower, lowered]

/-- Names differ in case only exactly if they have the same lower-case form. -/
theorem eqIgnoreCase_iff {a b : String} : eqIgnoreCase a b = true ↔ lower a = lower b := by
  rw [eqIgnoreCase, Bool.or_eq_true, beq_iff_eq]
  exact or_iff_right_of_imp lower_eq_of_eqIgnoreAsciiCase

end TypedMvc.Naming
