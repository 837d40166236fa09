import Mathlib.Data.List.Forall2
import TypedMvc.Proofs.ViewExtensions

/-!
# The form in which extensions are compared

Extensions are brought into one form before they are compared with those of files: the dots in front
are taken off, what follows is lower-cased, and nothing at all is no extension (`IsNormalized`).
What has this form keeps it (`normalizeExtensions_idem`): lower-casing a second time changes
nothing, and it puts no dot in front, since only a dot becomes a dot (`eq_dot_of_mem_lowerChar`).
-/

namespace TypedMvc.Unicode

/-- Only a dot becomes a dot. -/
theorem eq_dot_of_mem_lowerChar {c : Char} (mem : '.' ∈ lowerChar c) : c = '.' := by
  rw [lowerChar] at mem
  split at mem
  · exact absurd mem (by decide)
  · rw [List.mem_singleton, lowerSimple] at mem
    split at mem
    · rename_i run found
      -- The table has no dot among its lower-case forms.
      have clear : (lowerRuns.all fun run => run.forms.all fun n => Char.ofNat n != '.') =
          true := by decide +kernel
      have has : run.has c.toNat = true := by simpa using List.find?_some found
      have other := List.all_eq_true.mp
        (List.all_eq_true.mp clear run (List.mem_of_find?_eq_some found)) _ (LowerRun.mem_forms has)
      exact absurd mem.symm (bne_iff_ne.mp other)
    · exact mem.symm

/-- A lower-case form begins with a dot only if the text does. -/
theorem head?_lowerFrom_eq_dot {before text : List Char}
    (isDot : (lowerFrom before text).head? = some '.') : text.head? = some '.' := by
  cases text with
  | nil => cases isDot
  | cons c rest =>
    rw [lowerFrom] at isDot
    split at isDot
    · rw [List.singleton_append, List.head?_cons, Option.some.injEq] at isDot
      have sigma := isDot ▸ lowerSigma_mem before rest
      exact absurd sigma (by decide)
    · obtain ⟨first, more, form⟩ := List.exists_cons_of_length_pos (one_le_length_lowerChar c)
      rw [form, List.cons_append, List.head?_cons, Option.some.injEq] at isDot
      have mem : '.' ∈ lowerChar c := by
        rw [form, isDot]
        exact List.mem_cons_self
      rw [List.head?_cons, eq_dot_of_mem_lowerChar mem]

end TypedMvc.Unicode

namespace TypedMvc.Settings

open Unicode

/-- Nothing is taken off a text without a dot in front. -/
theorem dropWhile_dot_eq_self {text : List Char} (noDot : text.head? ≠ some '.') :
    text.dropWhile (· == '.') = text := by
  cases text with
  | nil => rfl
  | cons first rest =>
    have other : first ≠ '.' := fun isDot => noDot (congrArg some isDot)
    rw [List.dropWhile_cons_of_neg (by simpa using other)]

/-- No dot is left in front of an extension. -/
theorem head?_dropWhile_dot (text : List Char) :
    (text.dropWhile (· == '.')).head? ≠ some '.' := by
  intro isDot
  have fails := List.head?_dropWhile_not (· == '.') text
  rw [isDot] at fails
  exact absurd fails (by decide)

/-- The form in which an extension is compared is its own. -/
theorem normalizeExtension_idem (extension : String) :
    normalizeExtension (normalizeExtension extension) = normalizeExtension extension := by
  have noDot : (normalizeExtension extension).toList.head? ≠ some '.' := by
    intro isDot
    rw [normalizeExtension, lower, String.toList_ofList, String.toList_ofList] at isDot
    exact head?_dropWhile_dot _ (head?_lowerFrom_eq_dot isDot)
  rw [normalizeExtension, dropWhile_dot_eq_self noDot, String.ofList_toList,
    lower_normalizeExtension]

/-- Extensions that were brought into the form in which they are compared stay as they are. -/
theorem normalizeExtensions_idem (listed : List String) :
    normalizeExtensions (normalizeExtensions listed) = normalizeExtensions listed := by
  have kept : (normalizeExtensions listed).map normalizeExtension =
      (normalizeExtensions listed).map id := by
    refine List.map_congr_left fun normalized mem => ?_
    obtain ⟨-, extension, -, rfl⟩ := mem_normalizeExtensions.mp mem
    exact normalizeExtension_idem extension
  have full : ∀ normalized ∈ normalizeExtensions listed, decide (normalized ≠ "") = true :=
    fun normalized mem => decide_eq_true (mem_normalizeExtensions.mp mem).1
  rw [normalizeExtensions, kept, List.map_id, List.filter_eq_self.mpr full]

/-- An extension in the form in which extensions are compared: all dots in front are taken off, and
what follows them is in lower case. -/
def IsPlainForm (extension form : String) : Prop :=
  ∃ dots rest, extension.toList = List.replicate dots '.' ++ rest ∧ rest.head? ≠ some '.' ∧
    IsLowerCaseOf form.toList rest

/-- Extensions in that form, in the order in which they are listed and without empty ones. -/
def IsNormalized (listed normalized : List String) : Prop :=
  ∃ forms, List.Forall₂ IsPlainForm listed forms ∧ normalized = forms.filter (· ≠ "")

/-- The form of an extension is what normalizing gives. -/
theorem isPlainForm_iff {extension form : String} :
    IsPlainForm extension form ↔ normalizeExtension extension = form := by
  constructor
  · rintro ⟨dots, rest, split, noDot, lowered⟩
    have left : extension.toList.dropWhile (· == '.') = rest := by
      rw [split, List.dropWhile_append_of_pos (by simp), dropWhile_dot_eq_self noDot]
    rw [← String.toList_ofList (l := rest), isLowerCaseOf_iff, String.toList_inj] at lowered
    rw [normalizeExtension, left, lowered]
  · rintro rfl
    have split := List.takeWhile_append_dropWhile (p := (· == '.')) (l := extension.toList)
    have dots : extension.toList.takeWhile (· == '.') =
        List.replicate (extension.toList.takeWhile (· == '.')).length '.' :=
      List.eq_replicate_of_mem fun c mem => by simpa using List.mem_takeWhile_imp mem
    rw [dots] at split
    refine ⟨_, _, split.symm, head?_dropWhile_dot _, ?_⟩
    have lowered := isLowerCaseOf_iff.mpr (Eq.refl (normalizeExtension extension).toList)
    rwa [String.toList_ofList] at lowered

/-- Normalized extensions are what normalizing gives. -/
theorem isNormalized_iff {listed normalized : List String} :
    IsNormalized listed normalized ↔ normalized = normalizeExtensions listed := by
  have forms (forms : List String) :
      List.Forall₂ IsPlainForm listed forms ↔ listed.map normalizeExtension = forms := by
    have same : IsPlainForm = fun extension form => normalizeExtension extension = form := by
      funext extension form
      exact propext isPlainForm_iff
    rw [same, ← List.forall₂_eq_eq_eq, List.forall₂_map_left_iff]
  rw [IsNormalized]
  simp only [forms, exists_eq_left']
  rfl

end TypedMvc.Settings
