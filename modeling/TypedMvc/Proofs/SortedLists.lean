import Mathlib.Data.List.Perm.Basic
import TypedMvc.Project.Sources

/-!
# Lists that are sorted by a key

A list is sorted by a key in one way only, in whatever order its elements come, if no two of them
have the same key (`mergeSort_eq_of_perm`), and then each key is in front of all behind it
(`pairwise_mergeSort_of_nodup`). Texts are sorted by their characters (`sorts_text`), and the files
of a walk by the names on their paths (`sorts_names`).
-/

namespace TypedMvc.Files

/-- An order by which a list can be sorted: of any two keys one comes before the other, and both
only if they are the same. -/
structure Sorts {κ : Type} (le : κ → κ → Bool) : Prop where
  /-- What comes before a key comes before all behind it. -/
  trans : ∀ a b c, le a b = true → le b c = true → le a c = true
  /-- One of two keys comes first. -/
  total : ∀ a b, (le a b || le b a) = true
  /-- Different keys come one after the other. -/
  antisymm : ∀ a b, le a b = true → le b a = true → a = b

/-- Texts are sorted by the order of their characters. -/
theorem sorts_text : Sorts fun a b : String => decide (a ≤ b) where
  trans a b c := by
    simp only [decide_eq_true_iff]
    exact String.le_trans
  total a b := by
    simp only [Bool.or_eq_true, decide_eq_true_iff]
    exact String.le_total a b
  antisymm a b := by
    simp only [decide_eq_true_iff]
    exact String.le_antisymm

/-- What is sorted by a key has each key in front of all behind it. -/
theorem Sorts.pairwise_mergeSort {α κ : Type} {le : κ → κ → Bool} (order : Sorts le) (key : α → κ)
    (l : List α) :
    (l.mergeSort fun a b => le (key a) (key b)).Pairwise fun a b => le (key a) (key b) = true :=
  List.pairwise_mergeSort (fun a b c => order.trans (key a) (key b) (key c))
    (fun a b => order.total (key a) (key b)) l

/-- A list is sorted by a key in one way, in whatever order its elements come, if no two of them
have the same key. -/
theorem mergeSort_eq_of_perm {α κ : Type} {le : κ → κ → Bool} (order : Sorts le) (key : α → κ)
    {l l' : List α} (perm : l.Perm l') (apart : ∀ a ∈ l, ∀ b ∈ l, key a = key b → a = b) :
    l.mergeSort (fun a b => le (key a) (key b)) = l'.mergeSort fun a b => le (key a) (key b) := by
  have sorted := (List.mergeSort_perm l fun a b => le (key a) (key b)).trans
    (perm.trans (List.mergeSort_perm l' fun a b => le (key a) (key b)).symm)
  refine sorted.eq_of_pairwise (fun a b mem mem' front behind => ?_)
    (order.pairwise_mergeSort key l) (order.pairwise_mergeSort key l')
  exact apart a (List.mem_mergeSort.mp mem) b (perm.mem_iff.mpr (List.mem_mergeSort.mp mem'))
    (order.antisymm _ _ front behind)

/-- What is sorted by keys of which none comes twice increases from each to the next. -/
theorem pairwise_mergeSort_of_nodup {α κ : Type} {le : κ → κ → Bool} (order : Sorts le)
    (key : α → κ) {l : List α} (apart : (l.map key).Nodup) :
    (l.mergeSort fun a b => le (key a) (key b)).Pairwise fun a b =>
      le (key a) (key b) = true ∧ key a ≠ key b := by
  have distinct : (l.mergeSort fun a b => le (key a) (key b)).Pairwise fun a b => key a ≠ key b :=
    List.pairwise_map.mp (((List.mergeSort_perm l _).map key).nodup_iff.mpr apart)
  exact (order.pairwise_mergeSort key l).and distinct

end TypedMvc.Files

namespace TypedMvc.Project

open Files

/-! ## Paths -/

/-- One list of names comes before another by its first name, or by the others if the first names
are the same. -/
theorem namesLe_cons_iff {x y : String} {xs ys : List String} :
    namesLe (x :: xs) (y :: ys) = true ↔ x < y ∨ x = y ∧ namesLe xs ys = true := by
  rw [namesLe, Bool.or_eq_true, decide_eq_true_iff, Bool.and_eq_true, beq_iff_eq]

/-- What comes before a list of names comes before all behind it. -/
theorem namesLe_trans {a b c : List String} (front : namesLe a b = true)
    (behind : namesLe b c = true) : namesLe a c = true := by
  induction a generalizing b c with
  | nil => simp only [namesLe]
  | cons x xs ih =>
    cases b with
    | nil => cases front
    | cons y ys =>
      cases c with
      | nil => cases behind
      | cons z zs =>
        rw [namesLe_cons_iff] at front behind ⊢
        rcases front with less | ⟨rfl, front⟩
        · refine Or.inl ?_
          rcases behind with less' | ⟨rfl, -⟩
          · exact String.lt_trans less less'
          · exact less
        · exact behind.imp_right fun ⟨same, behind⟩ => ⟨same, ih front behind⟩

/-- One of two lists of names comes first. -/
theorem namesLe_total (a b : List String) : namesLe a b = true ∨ namesLe b a = true := by
  induction a generalizing b with
  | nil => simp only [namesLe, true_or]
  | cons x xs ih =>
    cases b with
    | nil => simp only [namesLe, or_true]
    | cons y ys =>
      rw [namesLe_cons_iff, namesLe_cons_iff]
      by_cases less : x < y
      · exact Or.inl (Or.inl less)
      · by_cases greater : y < x
        · exact Or.inr (Or.inl greater)
        · have same := String.le_antisymm (String.not_lt.mp greater) (String.not_lt.mp less)
          exact (ih ys).imp (fun le => Or.inr ⟨same, le⟩) fun le => Or.inr ⟨same.symm, le⟩

/-- Different lists of names come one after the other. -/
theorem eq_of_namesLe {a b : List String} (front : namesLe a b = true)
    (behind : namesLe b a = true) : a = b := by
  induction a generalizing b with
  | nil =>
    cases b with
    | nil => rfl
    | cons y ys => cases behind
  | cons x xs ih =>
    cases b with
    | nil => cases front
    | cons y ys =>
      rw [namesLe_cons_iff] at front behind
      rcases front with less | ⟨rfl, front⟩
      · rcases behind with greater | ⟨rfl, -⟩
        · exact absurd greater (String.lt_asymm less)
        · exact absurd less (String.lt_irrefl _)
      · rcases behind with less | ⟨-, behind⟩
        · exact absurd less (String.lt_irrefl _)
        · rw [ih front behind]

/-- Paths are sorted by the order of their names. -/
theorem sorts_names : Sorts namesLe where
  trans _ _ _ := namesLe_trans
  total a b := (Bool.or_eq_true _ _).mpr (namesLe_total a b)
  antisymm _ _ := eq_of_namesLe

end TypedMvc.Project
