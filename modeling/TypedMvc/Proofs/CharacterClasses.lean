import Mathlib.Data.List.Perm.Basic
import TypedMvc.Unicode.Alphabetic

/-!
# Character classes that overlap and that do not

The general categories share no character, while the property Alphabetic runs across them: besides
letters and letter numbers it takes in some marks, and the letters in circles and squares, which are
symbols (`otherAlphabetic_split`). The facts about the tables are found by weaving some of them into
one (`Ranges.weave`): sets have no character in common if their intervals, woven together, come one
after the other, and a set lies within others if their intervals, woven together, leave no gap in
it. So a check goes through each table once, and does not compare every interval with every other.
-/

namespace TypedMvc.Unicode

namespace Ranges

/-! ## Tables woven together -/

/-- The intervals of a set with one more in its place, and all behind it woven further. -/
def weaveOne (r : Nat × Nat) (weaveRest : Ranges → Ranges) : Ranges → Ranges
  | [] => r :: weaveRest []
  | s :: others =>
    bif Nat.blt s.1 r.1 then s :: weaveOne r weaveRest others else r :: weaveRest (s :: others)

/-- The intervals of two sets in increasing order, if both are in increasing order. -/
def weave : Ranges → Ranges → Ranges
  | [], others => others
  | r :: rest, others => weaveOne r (weave rest) others

/-- The intervals of several sets in increasing order, if all of them are in increasing order. -/
def weaveAll (sets : List Ranges) : Ranges := sets.foldr weave []

/-- Weaving in one interval keeps it and the others, if weaving further does. -/
theorem perm_weaveOne {rest : Ranges} {weaveRest : Ranges → Ranges}
    (perm : ∀ others, (weaveRest others).Perm (rest ++ others)) (r : Nat × Nat)
    (others : Ranges) : (weaveOne r weaveRest others).Perm (r :: rest ++ others) := by
  induction others with
  | nil => exact (perm []).cons r
  | cons s others ih =>
    rw [weaveOne]
    cases Nat.blt s.1 r.1 with
    | true => exact (ih.cons s).trans List.perm_middle.symm
    | false => exact (perm (s :: others)).cons r

/-- Weaving keeps the intervals of both sets. -/
theorem perm_weave (ranges others : Ranges) : (weave ranges others).Perm (ranges ++ others) := by
  induction ranges generalizing others with
  | nil => exact List.Perm.refl _
  | cons r rest ih => exact perm_weaveOne ih r others

/-- Weaving keeps the intervals of all sets. -/
theorem perm_weaveAll (sets : List Ranges) : (weaveAll sets).Perm sets.flatten := by
  induction sets with
  | nil => exact List.Perm.refl _
  | cons ranges rest ih => exact (perm_weave ranges (weaveAll rest)).trans (ih.append_left ranges)

/-- A character is in sets woven together exactly if it is in one of them. -/
theorem has_weaveAll {sets : List Ranges} {c : Char} :
    (weaveAll sets).has c = true ↔ ∃ ranges ∈ sets, ranges.has c = true := by
  simp only [has_iff, (perm_weaveAll sets).mem_iff, List.mem_flatten]
  constructor
  · rintro ⟨r, ⟨ranges, isOne, mem⟩, bounds⟩
    exact ⟨ranges, isOne, r, mem, bounds⟩
  · rintro ⟨ranges, isOne, r, mem, bounds⟩
    exact ⟨r, ⟨ranges, isOne, mem⟩, bounds⟩

/-! ## Sets without a common character -/

/-- The first interval ends before the second one, which has an end, begins. -/
def Before (r s : Nat × Nat) : Prop := r.2 < s.1 ∧ s.1 ≤ s.2

instance : DecidableRel Before := fun _ _ => instDecidableAnd

instance : IsTrans (Nat × Nat) Before :=
  ⟨fun _ _ _ first second => ⟨by have := first.1; have := second.1; have := first.2; omega,
    second.2⟩⟩

/-- No character is in both sets. -/
def Apart (ranges others : Ranges) : Prop := ∀ c, ranges.has c = true → others.has c = false

/-- Sets have no character in common if their intervals, woven together, come one after the
other. -/
theorem pairwise_apart_of_isChain {sets : List Ranges}
    (increasing : (weaveAll sets).IsChain Before) : sets.Pairwise Apart := by
  have disjoint : (weaveAll sets).Pairwise fun r s => r.2 < s.1 ∨ s.2 < r.1 :=
    (List.isChain_iff_pairwise.mp increasing).imp fun before => Or.inl before.1
  rw [(perm_weaveAll sets).pairwise_iff Or.symm, List.pairwise_flatten] at disjoint
  refine disjoint.2.imp fun between c inside => ?_
  by_contra both
  rw [Bool.not_eq_false] at both
  obtain ⟨r, isFirst, fromR, toR⟩ := has_iff.mp inside
  obtain ⟨s, isSecond, fromS, toS⟩ := has_iff.mp both
  rcases between r isFirst s isSecond with before | behind <;> omega

/-! ## Sets within others -/

/-- Whether the intervals, taken in order, leave no gap between two bounds. -/
def cover (low high : Nat) : Ranges → Bool
  | [] => Nat.blt high low
  | s :: rest => Nat.blt high low || (Nat.ble s.1 low && cover (max low (s.2 + 1)) high rest)

/-- Whether the intervals of the second set leave no gap in those of the first, for sets in
increasing order. -/
def within : Ranges → Ranges → Bool
  | [], _ => true
  | r :: rest, others =>
    let ahead := others.dropWhile fun s => Nat.blt s.2 r.1
    cover r.1 r.2 ahead && within rest ahead

/-- Intervals without a gap between two bounds hold every character between them. -/
theorem has_of_cover {low high : Nat} {ranges : Ranges} (covered : cover low high ranges = true)
    {c : Char} (fromLow : low ≤ c.toNat) (toHigh : c.toNat ≤ high) : ranges.has c = true := by
  induction ranges generalizing low with
  | nil =>
    have empty : high < low := Nat.blt_eq.mp covered
    omega
  | cons s rest ih =>
    rw [cover, Bool.or_eq_true, Bool.and_eq_true, Nat.blt_eq, Nat.ble_eq] at covered
    rw [has, List.any_cons, Bool.or_eq_true]
    rcases covered with empty | ⟨begins, later⟩
    · omega
    · by_cases inside : c.toNat ≤ s.2
      · left
        simp only [Bool.and_eq_true, decide_eq_true_eq]
        omega
      · exact Or.inr (ih later (by omega))

/-- Every character of a set within another is in that one too. -/
theorem has_of_within {ranges others : Ranges} (inside : within ranges others = true) {c : Char}
    (mem : ranges.has c = true) : others.has c = true := by
  induction ranges generalizing others with
  | nil => exact absurd mem Bool.false_ne_true
  | cons r rest ih =>
    rw [within, Bool.and_eq_true] at inside
    -- Passing over the first intervals takes no character in.
    have ahead : has (others.dropWhile fun s => Nat.blt s.2 r.1) c = true := by
      rw [has, List.any_cons, Bool.or_eq_true] at mem
      rcases mem with here | later
      · simp only [Bool.and_eq_true, decide_eq_true_eq] at here
        exact has_of_cover inside.1 here.1 here.2
      · exact ih inside.2 later
    obtain ⟨s, isOne, bounds⟩ := has_iff.mp ahead
    exact has_iff.mpr ⟨s, (List.dropWhile_sublist _).mem isOne, bounds⟩

end Ranges

/-! ## The classes of characters -/

/-- The letters in circles and squares. They are symbols, but count as alphabetic. -/
def enclosedLetters : Ranges := [
  (9398, 9449), (127280, 127305), (127312, 127337), (127344, 127369)]

/-- The general categories that count for names, and the enclosed letters, which are symbols. The
larger tables come first, so that they are woven in last. -/
def classes : List Ranges := [letters, nonspacingMarks, spacingMarks, otherNumbers, decimalDigits,
  formats, letterNumbers, connectors, enclosedLetters]

/-- No two classes share a character. -/
theorem pairwise_apart_classes : classes.Pairwise Ranges.Apart :=
  Ranges.pairwise_apart_of_isChain (by decide +kernel)

/-- The table of what is alphabetic beside letters and letter numbers lies within those of the marks
and of the enclosed letters. -/
theorem within_otherAlphabetic : otherAlphabetic.within
    (.weaveAll [nonspacingMarks, spacingMarks, enclosedLetters]) = true := by
  decide +kernel

/-- What is alphabetic without being a letter or a letter number is a mark or an enclosed
letter. -/
theorem otherAlphabetic_split {c : Char} (alphabetic : otherAlphabetic.has c = true) :
    nonspacingMarks.has c = true ∨ spacingMarks.has c = true ∨ enclosedLetters.has c = true := by
  simpa using Ranges.has_weaveAll.mp (Ranges.has_of_within within_otherAlphabetic alphabetic)

/-- An enclosed letter is alphabetic. -/
theorem otherAlphabetic_of_enclosed {c : Char} (enclosed : enclosedLetters.has c = true) :
    otherAlphabetic.has c = true :=
  Ranges.has_of_within (by decide +kernel) enclosed

/-- Letters and numbers are not among what is alphabetic beside them. -/
theorem otherAlphabetic_eq_false {c : Char} (mem : letters.has c = true ∨
    letterNumbers.has c = true ∨ decimalDigits.has c = true ∨ otherNumbers.has c = true) :
    otherAlphabetic.has c = false := by
  have apart := pairwise_apart_classes
  simp only [classes, List.pairwise_cons, List.forall_mem_cons, Ranges.Apart] at apart
  by_contra alphabetic
  rw [Bool.not_eq_false] at alphabetic
  have split := otherAlphabetic_split alphabetic
  grind

/-- Letters, letter numbers, decimal digits, marks, connectors and format characters are neither
other numbers nor enclosed letters. -/
theorem symbols_eq_false {c : Char} (mem : letters.has c = true ∨ letterNumbers.has c = true ∨
    decimalDigits.has c = true ∨ nonspacingMarks.has c = true ∨ spacingMarks.has c = true ∨
    connectors.has c = true ∨ formats.has c = true) :
    otherNumbers.has c = false ∧ enclosedLetters.has c = false := by
  have apart := pairwise_apart_classes
  simp only [classes, List.pairwise_cons, List.forall_mem_cons, Ranges.Apart] at apart
  grind

end TypedMvc.Unicode
