import TypedMvc.Command.Report
import TypedMvc.Proofs.ActionFields

/-!
# What gets a field, by place

Some of the things in a list get a field, and the others are reported as dropped. Which of them do
is a matter of their places: the first one with an identifier gets the field, unless the identifier
is taken (`ComesFirst`). Two recursions work this out, each with a list of the identifiers it has
met: one makes the fields (`firstByIdentifier_places`) and one the report (`droppedFrom_places`).
Both agree with `ComesFirst`, so what one passes over is what the other takes. `textFieldsOf` reads
the fields off a class again.
-/

namespace TypedMvc.Synthesis

open Command Declaration Naming

variable {α : Type} {belongs : α → Bool} {name : α → String} {taken : List String}

/-! ## What comes first -/

/-- What stands at a place of a list comes first with its identifier: it belongs to what can have a
field, its identifier is not taken, and nothing in front of it that belongs there has the same
one. -/
def ComesFirst (belongs : α → Bool) (name : α → String) (taken : List String) (items : List α)
    (entry : α × ℕ) : Prop :=
  belongs entry.1 = true ∧ memberIdentifier (name entry.1) ∉ taken ∧
    ∀ other ∈ items.take entry.2, belongs other = true →
      memberIdentifier (name other) ≠ memberIdentifier (name entry.1)

instance (items : List α) : DecidablePred (ComesFirst belongs name taken items) :=
  fun _ => instDecidableAnd

/-- At the front only what is taken matters. -/
theorem comesFirst_head {first : α} {rest : List α} :
    ComesFirst belongs name taken (first :: rest) (first, 0) ↔
      belongs first = true ∧ memberIdentifier (name first) ∉ taken := by
  simp [ComesFirst]

/-- Behind something that can have a field, its identifier is as good as taken. -/
theorem comesFirst_tail_of_belongs {first : α} {rest : List α} (isOne : belongs first = true)
    (entry : α × ℕ) :
    ComesFirst belongs name taken (first :: rest) (entry.1, entry.2 + 1) ↔
      ComesFirst belongs name (memberIdentifier (name first) :: taken) rest entry := by
  rw [ComesFirst, ComesFirst, List.take_succ_cons, List.forall_mem_cons, List.mem_cons, not_or]
  constructor
  · rintro ⟨own, free, other, apart⟩
    exact ⟨own, ⟨fun same => other isOne same.symm, free⟩, apart⟩
  · rintro ⟨own, ⟨other, free⟩, apart⟩
    exact ⟨own, free, fun _ same => other same.symm, apart⟩

/-- What cannot have a field does not matter to anything behind it. -/
theorem comesFirst_tail_of_not {first : α} {rest : List α} (isNone : ¬ belongs first = true)
    (entry : α × ℕ) :
    ComesFirst belongs name taken (first :: rest) (entry.1, entry.2 + 1) ↔
      ComesFirst belongs name taken rest entry := by
  rw [ComesFirst, ComesFirst, List.take_succ_cons, List.forall_mem_cons,
    and_iff_right fun isOne => absurd isOne isNone]

/-- It only matters which identifiers are taken. -/
theorem comesFirst_cons_of_mem {ident : String} (known : ident ∈ taken) (items : List α)
    (entry : α × ℕ) :
    ComesFirst belongs name (ident :: taken) items entry ↔
      ComesFirst belongs name taken items entry := by
  have same : ∀ other, other ∈ ident :: taken ↔ other ∈ taken := by
    intro other
    rw [List.mem_cons]
    exact or_iff_right_of_imp fun is => is ▸ known
  simp only [ComesFirst, same]

/-! ## The two recursions -/

/-- What is made of the entries of a list that pass a test, if there is one more in front. -/
theorem map_filter_zipIdx_cons {β : Type} (test : α × ℕ → Bool) (value : α × ℕ → β) (first : α)
    (rest : List α) :
    ((first :: rest).zipIdx.filter test).map value =
      (if test (first, 0) then [value (first, 0)] else []) ++
        (rest.zipIdx.filter fun entry => test (entry.1, entry.2 + 1)).map fun entry =>
          value (entry.1, entry.2 + 1) := by
  have shift : (fun entry : α × ℕ => test (entry.1, entry.2 + 1)) =
      test ∘ Prod.map id (· + 1) := rfl
  rw [List.zipIdx_cons', List.filter_cons, List.filter_map, shift]
  split
  · rw [List.map_cons, List.map_map]
    rfl
  · rw [List.map_map]
    rfl

/-- The pairs that become fields are those of the things that come first, whatever texts go with
the places. -/
theorem firstByIdentifier_places (belongs : α → Bool) (name : α → String) (taken : List String)
    (items : List α) (value : α × ℕ → String) :
    firstByIdentifier taken ((items.zipIdx.filter fun entry => belongs entry.1).map
        fun entry => (name entry.1, value entry)) =
      (items.zipIdx.filter fun entry => ComesFirst belongs name taken items entry).map
        fun entry => (memberIdentifier (name entry.1), value entry) := by
  -- The texts go with the places, so they move on by one place with the rest of the list.
  induction items generalizing taken value with
  | nil => rfl
  | cons first rest ih =>
    rw [map_filter_zipIdx_cons, map_filter_zipIdx_cons]
    by_cases isOne : belongs first = true
    · -- Its identifier counts as taken from here on, which is news only if it was not before.
      simp only [comesFirst_head, comesFirst_tail_of_belongs isOne, isOne, if_true, true_and]
      by_cases known : memberIdentifier (name first) ∈ taken
      · simp only [List.cons_append, List.nil_append, firstByIdentifier, known, if_true,
          not_true_eq_false, decide_false, Bool.false_eq_true, if_false,
          comesFirst_cons_of_mem known]
        exact ih taken fun entry => value (entry.1, entry.2 + 1)
      · simp only [List.cons_append, List.nil_append, firstByIdentifier, known, if_false,
          not_false_eq_true, decide_true, if_true]
        exact congrArg _ (ih _ fun entry => value (entry.1, entry.2 + 1))
    · simp only [comesFirst_head, comesFirst_tail_of_not isOne, isOne, false_and, decide_false,
        Bool.false_eq_true, if_false, List.nil_append]
      exact ih taken fun entry => value (entry.1, entry.2 + 1)

/-- What is reported as dropped is what can have a field and does not come first. -/
theorem droppedFrom_places (belongs : α → Bool) (name : α → String) (taken : List String)
    (items : List α) :
    droppedFrom name taken (items.filter belongs) =
      (items.zipIdx.filter fun entry =>
          belongs entry.1 && !decide (ComesFirst belongs name taken items entry)).map
        fun entry => (entry.1, memberIdentifier (name entry.1)) := by
  induction items generalizing taken with
  | nil => rfl
  | cons first rest ih =>
    rw [map_filter_zipIdx_cons, List.filter_cons]
    by_cases isOne : belongs first = true
    · simp only [comesFirst_head, comesFirst_tail_of_belongs isOne, isOne, if_true, true_and,
        Bool.true_and]
      by_cases known : memberIdentifier (name first) ∈ taken
      · simp only [droppedFrom, known, if_true, not_true_eq_false, decide_false, Bool.not_false,
          comesFirst_cons_of_mem known, ih, List.cons_append, List.nil_append]
      · simp only [droppedFrom, known, if_false, not_false_eq_true, decide_true, Bool.not_true,
          Bool.false_eq_true, ih, List.nil_append]
    · simp only [comesFirst_head, comesFirst_tail_of_not isOne, isOne, false_and, decide_false,
        Bool.false_eq_true, if_false, Bool.false_and, List.nil_append, ih]

/-! ## The fields of a class -/

/-- The fields of a class that hold texts, each with its text. -/
def textFieldsOf (node : Node) : List (String × String) :=
  (textPairs node).filterMap fun field => field.2.map fun text => (field.1, text)

/-- The fields of a class that hold texts are those for its pairs if nothing else in it holds a
text. -/
theorem textFieldsOf_of_children {node : Node} {others : List Node}
    {pairs : List (String × String)} {modifiers : List Modifier} {reserved : List String}
    (children : node.children = others ++ uniqueTextFields pairs modifiers reserved)
    (textless : ∀ other ∈ others, other.text? = none) :
    textFieldsOf node = firstByIdentifier reserved pairs := by
  let ownText (field : Node) : Option (String × String) :=
    field.text?.map fun text => (field.name, text)
  have read : textFieldsOf node =
      (node.children.filter fun child => child.kind == .fieldKind).filterMap ownText := by
    rw [textFieldsOf, textPairs, Node.childrenOf, List.filterMap_map]
    rfl
  have nothing : (others.filter fun child => child.kind == .fieldKind).filterMap ownText = [] := by
    refine List.filterMap_eq_nil_iff.mpr fun other mem => ?_
    exact congrArg (Option.map _) (textless other (List.mem_filter.mp mem).1)
  rw [read, children, List.filter_append, List.filterMap_append, nothing, List.nil_append,
    filter_fieldKind_uniqueTextFields, uniqueTextFields, List.filterMap_map]
  exact List.filterMap_some

end TypedMvc.Synthesis
