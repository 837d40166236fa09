import Mathlib.Data.List.Dedup
import Mathlib.Data.List.Induction

/-!
# What a list has for the first time, the second time and so on

An item of a list stands at a place for the first time if the same item is nowhere in front of it,
and for the second time if it is there once (`IsOccurrence`, which counts from zero).
`ListsOccurrences` says of another list that it has one entry for each item that occurs so often, in
the order of the places. A loop that makes such a list looks at one item after another, so it is
enough to know what one more item at the end does to it (`ListsOccurrences.concat`), and to what the
loop remembers of the items so far (`HasOften`).
-/

namespace TypedMvc

variable {α : Type} [DecidableEq α] {items known listed : List α} {n : ℕ} {item : α}

/-- The item stands at the place, and `n` times in front of it. -/
def IsOccurrence (items : List α) (n place : ℕ) (item : α) : Prop :=
  items[place]? = some item ∧ (items.take place).count item = n

/-- The known items are those that stand more than `n` times in a list. -/
def HasOften (n : ℕ) (items known : List α) : Prop := ∀ item, item ∈ known ↔ n < items.count item

/-- The list has the items that stand more than `n` times in another one, in the order of the places
at which they stand with `n` of the same in front. -/
structure ListsOccurrences (n : ℕ) (items listed : List α) : Prop where
  /-- An item is listed exactly if it occurs so often. -/
  mem_iff : HasOften n items listed
  /-- What is listed in front stands at an earlier place. -/
  ordered : listed.Pairwise fun a b =>
    ∃ i j, i < j ∧ IsOccurrence items n i a ∧ IsOccurrence items n j b

/-! ## Places -/

/-- The place of an occurrence is one of the list. -/
theorem IsOccurrence.lt_length {place : ℕ} (occurs : IsOccurrence items n place item) :
    place < items.length :=
  (List.getElem?_eq_some_iff.mp occurs.1).1

/-- What stands behind an occurrence does not matter. -/
theorem IsOccurrence.append {place : ℕ} (occurs : IsOccurrence items n place item)
    (more : List α) : IsOccurrence (items ++ more) n place item := by
  have inside := occurs.lt_length
  rw [IsOccurrence, List.getElem?_append_left inside,
    List.take_append_of_le_length (Nat.le_of_lt inside)]
  exact occurs

/-- One more item at the end occurs there once more than in front. -/
theorem isOccurrence_concat (items : List α) (item : α) :
    IsOccurrence (items ++ [item]) (items.count item) items.length item := by
  refine ⟨by rw [List.getElem?_concat_length], ?_⟩
  rw [List.take_left']
  rfl

/-- An item has two places only with different numbers of the same in front of them. -/
theorem IsOccurrence.not_lt {i j : ℕ} (first : IsOccurrence items n i item)
    (second : IsOccurrence items n j item) : ¬ i < j := by
  intro before
  -- What is in front of the second place has all that is in front of the first one, and the item.
  have inFront : items.take (i + 1) <+: items.take j := List.take_prefix_take_left before
  have more : (items.take (i + 1)).count item = n + 1 := by
    rw [List.take_add_one, first.1, List.count_append, first.2]
    simp
  have atMost := inFront.sublist.count_le item
  rw [more, second.2] at atMost
  omega

/-- An item that stands often enough in a list has a place with a certain number of it in front. -/
theorem exists_isOccurrence (often : n < items.count item) :
    ∃ place, IsOccurrence items n place item := by
  induction items using List.reverseRecOn with
  | nil => simp at often
  | append_singleton items last ih =>
    by_cases inFront : n < items.count item
    · obtain ⟨place, occurs⟩ := ih inFront
      exact ⟨place, occurs.append [last]⟩
    · -- Then the last item is the one that makes it enough.
      rw [List.count_append, List.count_singleton] at often
      have same : last = item := by
        by_contra other
        rw [if_neg (by simpa using other)] at often
        omega
      subst same
      rw [beq_self_eq_true, if_pos rfl] at often
      have exactly : items.count last = n := by omega
      exact ⟨items.length, exactly ▸ isOccurrence_concat items last⟩

/-! ## One more item -/

/-- With one more item at the end there are more than `n` of those of which there were, and of this
one if there were `n`. -/
theorem lt_count_concat {other : α} :
    n < (items ++ [item]).count other ↔
      n < items.count other ∨ other = item ∧ items.count item = n := by
  rw [List.count_append, List.count_singleton]
  by_cases same : other = item
  · subst same
    rw [beq_self_eq_true, if_pos rfl, and_iff_right rfl]
    omega
  · simp [same, Ne.symm same]

/-- One more item becomes known if `n` of it are in front. -/
theorem HasOften.cons (often : HasOften n items known) (exactly : items.count item = n) :
    HasOften n (items ++ [item]) (item :: known) := by
  intro other
  rw [lt_count_concat, List.mem_cons, often, and_iff_left exactly, or_comm]

/-- One more item is known already, or does not become so, if not `n` of it are in front. -/
theorem HasOften.keep (often : HasOften n items known) (other : items.count item ≠ n) :
    HasOften n (items ++ [item]) known := by
  intro one
  rw [lt_count_concat, often, or_iff_left fun ⟨_, exactly⟩ => other exactly]

/-- The empty list has no occurrences. -/
theorem listsOccurrences_nil (n : ℕ) : ListsOccurrences n ([] : List α) [] :=
  ⟨fun item => by simp, List.Pairwise.nil⟩

/-- One more item at the end is listed if `n` of it are in front. -/
theorem ListsOccurrences.concat (lists : ListsOccurrences n items listed) (item : α) :
    ListsOccurrences n (items ++ [item])
      (if items.count item = n then listed ++ [item] else listed) := by
  have kept : listed.Pairwise fun a b => ∃ i j, i < j ∧
      IsOccurrence (items ++ [item]) n i a ∧ IsOccurrence (items ++ [item]) n j b :=
    lists.ordered.imp fun ⟨i, j, before, first, second⟩ =>
      ⟨i, j, before, first.append _, second.append _⟩
  by_cases exactly : items.count item = n
  · rw [if_pos exactly]
    constructor
    · intro other
      rw [List.mem_append, List.mem_singleton, or_comm, ← List.mem_cons]
      exact lists.mem_iff.cons exactly other
    · refine List.pairwise_append.mpr ⟨kept, List.pairwise_singleton _ _, ?_⟩
      intro other isListed last isLast
      obtain rfl := List.mem_singleton.mp isLast
      obtain ⟨place, occurs⟩ := exists_isOccurrence ((lists.mem_iff other).mp isListed)
      exact ⟨place, items.length, occurs.lt_length, occurs.append _,
        exactly ▸ isOccurrence_concat items last⟩
  · rw [if_neg exactly]
    exact ⟨lists.mem_iff.keep exactly, kept⟩

/-! ## What is listed -/

/-- Nothing is listed twice. -/
theorem ListsOccurrences.nodup (lists : ListsOccurrences n items listed) : listed.Nodup := by
  refine lists.ordered.imp ?_
  rintro a b ⟨i, j, before, first, second⟩ rfl
  exact first.not_lt second before

/-- The first occurrences are fewer than the items exactly if some item occurs for the second
time. -/
theorem length_lt_iff {firsts seconds : List α} (listsFirsts : ListsOccurrences 0 items firsts)
    (listsSeconds : ListsOccurrences 1 items seconds) :
    firsts.length < items.length ↔ seconds ≠ [] := by
  have sameItems : firsts.Perm items.dedup := by
    rw [List.perm_ext_iff_of_nodup listsFirsts.nodup items.nodup_dedup]
    intro item
    rw [listsFirsts.mem_iff item, List.count_pos_iff, List.mem_dedup]
  have repeats : seconds ≠ [] ↔ ¬ items.Nodup := by
    rw [ne_eq, List.eq_nil_iff_forall_not_mem, List.nodup_iff_count_le_one]
    simp only [listsSeconds.mem_iff _, Nat.not_lt]
  rw [sameItems.length_eq, repeats, ← List.dedup_eq_self]
  constructor
  · intro fewer all
    rw [all] at fewer
    exact Nat.lt_irrefl _ fewer
  · intro fewer
    exact Nat.lt_of_le_of_ne items.dedup_sublist.length_le fun same =>
      fewer (items.dedup_sublist.eq_of_length same)

end TypedMvc
