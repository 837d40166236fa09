import TypedMvc.Proofs.FieldPlaces

/-!
# The fields for a list of pairs

`uniqueTextFields` walks a list of names and texts with a list of the identifiers it has met, the
reserved ones among them. Where the walk is over, what it has met no longer matters: a pair has a
field if it is the first one with its identifier (`IsFirstPair`), which is a matter of the pairs in
front of it alone. `uniqueTextFields_first` says so, and that pairs added behind a list change none
of its fields.
-/

namespace TypedMvc.Synthesis

open Declaration Naming

variable {taken reserved : List String} {pairs part : List (String × String)}
  {modifiers : List Modifier}

/-- Nothing is lost for good: the identifier of each pair is taken or has a field. -/
theorem mem_taken_or_firstByIdentifier {pair : String × String} (mem : pair ∈ pairs) :
    memberIdentifier pair.1 ∈ taken ∨
      memberIdentifier pair.1 ∈ (firstByIdentifier taken pairs).map Prod.fst := by
  induction pairs generalizing taken with
  | nil => exact absurd mem List.not_mem_nil
  | cons first rest ih =>
    obtain ⟨name, value⟩ := first
    rw [firstByIdentifier]
    split
    · rename_i known
      rcases List.mem_cons.mp mem with rfl | later
      · exact Or.inl known
      · exact ih later
    · rw [List.map_cons, List.mem_cons]
      rcases List.mem_cons.mp mem with rfl | later
      · exact Or.inr (Or.inl rfl)
      · -- For the rest the identifier of the first pair is taken too, and here it has a field.
        rcases ih later with known | field
        · rcases List.mem_cons.mp known with same | known
          · exact Or.inr (Or.inl same)
          · exact Or.inl known
        · exact Or.inr (Or.inr field)

/-- What comes first in a part of a list at its front comes first in the whole list. -/
theorem prefix_firstByIdentifier (front : part <+: pairs) (taken : List String) :
    firstByIdentifier taken part <+: firstByIdentifier taken pairs := by
  obtain ⟨more, rfl⟩ := front
  induction part generalizing taken with
  | nil => exact List.nil_prefix
  | cons first rest ih =>
    obtain ⟨name, value⟩ := first
    rw [List.cons_append, firstByIdentifier, firstByIdentifier]
    split
    · exact ih taken
    · exact (List.prefix_cons_inj _).mpr (ih _)

/-- A pair at its place in a list is the first one with its identifier, which is not taken. -/
def IsFirstPair (taken : List String) (pairs : List (String × String))
    (entry : (String × String) × ℕ) : Prop :=
  memberIdentifier entry.1.1 ∉ taken ∧
    ∀ earlier ∈ pairs.take entry.2, memberIdentifier earlier.1 ≠ memberIdentifier entry.1.1

instance : DecidablePred (IsFirstPair taken pairs) := fun _ => instDecidableAnd

/-- The pairs that become fields are the first ones with their identifiers. -/
theorem firstByIdentifier_eq (taken : List String) (pairs : List (String × String)) :
    firstByIdentifier taken pairs =
      (pairs.zipIdx.filter fun entry => IsFirstPair taken pairs entry).map
        fun entry => (memberIdentifier entry.1.1, entry.1.2) := by
  have places := firstByIdentifier_places (fun _ => true) Prod.fst taken pairs (·.1.2)
  have all : (pairs.zipIdx.filter fun _ => true).map (fun entry => (entry.1.1, entry.1.2)) =
      pairs := by
    rw [List.filter_true]
    exact List.zipIdx_map_fst 0 pairs
  rw [all] at places
  simpa only [ComesFirst, IsFirstPair, true_and, forall_true_left] using places

/-- The fields for a list of pairs are, in the order of the list, one for each pair whose identifier
is neither reserved nor that of an earlier pair. It is called by the identifier, holds the text of
the pair and has the modifiers. So the fields have names of their own that are not reserved, an
identifier without a field is reserved, and pairs that are added behind a list leave the fields of
the list as they are. -/
theorem uniqueTextFields_first (pairs : List (String × String)) (modifiers : List Modifier)
    (reserved : List String) :
    let fields := uniqueTextFields pairs modifiers reserved
    fields = (pairs.zipIdx.filter fun entry => IsFirstPair reserved pairs entry).map (fun entry =>
        (Node.ofText (memberIdentifier entry.1.1) entry.1.2).withModifiers modifiers) ∧
      (fields.map Node.name).Nodup ∧
      (∀ field ∈ fields, field.name ∉ reserved) ∧
      (∀ pair ∈ pairs, memberIdentifier pair.1 ∈ reserved ∨
        ∃ field ∈ fields, field.name = memberIdentifier pair.1) ∧
      ∀ part, part <+: pairs → uniqueTextFields part modifiers reserved <+: fields := by
  intro fields
  have names : fields.map Node.name = (firstByIdentifier reserved pairs).map Prod.fst :=
    names_uniqueTextFields pairs modifiers reserved
  obtain ⟨free, distinct⟩ := firstByIdentifier_spec reserved pairs
  refine ⟨?_, names ▸ distinct, fun field mem => ?_, fun pair mem => ?_, fun part front => ?_⟩
  · show uniqueTextFields pairs modifiers reserved = _
    rw [uniqueTextFields, firstByIdentifier_eq, List.map_map]
    rfl
  · exact (free field.name (names ▸ List.mem_map_of_mem mem)).2
  · rw [← List.mem_map, names]
    exact mem_taken_or_firstByIdentifier mem
  · exact (prefix_firstByIdentifier front reserved).map _

/-- Of two pairs with one identifier the first one gets the field, and a pair with a reserved
identifier gets none. -/
example : (uniqueTextFields [("Index", "a"), ("my-view", "b"), ("my_view", "c"), ("Views", "d")]
    [.publicModifier] ["Views"]).map (fun field => (field.name, field.text?)) =
      [("Index", some "a"), ("my_view", some "b")] := by decide +kernel

end TypedMvc.Synthesis
