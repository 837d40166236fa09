import TypedMvc.Proofs.PathPieces

/-!
# The steps of paths and their text

The steps of a path can be written down again, with slashes between them, and what is written has
the same steps (`Path.components_text`). So two lists of steps with one text are one list. The steps
of a path below another one are those of the other one, then its own (`Path.components_join`).
-/

namespace TypedMvc.Files

/-- A name that an entry of a directory can have. -/
structure IsFileName (name : String) : Prop where
  /-- It is not empty. -/
  nonempty : name ≠ ""
  /-- It does not stand for the directory itself. -/
  notHere : name ≠ "."
  /-- It does not stand for the directory above. -/
  notUp : name ≠ ".."
  /-- It has no slash in it. -/
  whole : '/' ∉ name.toList

instance (name : String) : Decidable (IsFileName name) :=
  decidable_of_iff (name ≠ "" ∧ name ≠ "." ∧ name ≠ ".." ∧ '/' ∉ name.toList)
    ⟨fun ⟨nonempty, notHere, notUp, whole⟩ => ⟨nonempty, notHere, notUp, whole⟩,
      fun isName => ⟨isName.nonempty, isName.notHere, isName.notUp, isName.whole⟩⟩

/-- A step that can stand anywhere in a path. -/
def Component.IsPlain : Component → Prop
  | .root | .here => False
  | .up => True
  | .entry name => IsFileName name

namespace Path

open Text

variable {path directory : String} {names : List String}

/-- Steps as a path has them: only the first one may be the root or the directory itself. -/
def AreSteps : List Component → Prop
  | [] => True
  | first :: rest =>
    (first = .root ∨ first = .here ∨ first.IsPlain) ∧ ∀ step ∈ rest, step.IsPlain

/-- Plain steps are steps. -/
theorem areSteps_of_isPlain {steps : List Component} (plain : ∀ step ∈ steps, step.IsPlain) :
    AreSteps steps := by
  cases steps with
  | nil => trivial
  | cons first rest =>
    exact ⟨Or.inr (Or.inr (plain first List.mem_cons_self)),
      fun step mem => plain step (List.mem_cons_of_mem first mem)⟩

/-- All steps but the first one are plain. -/
theorem AreSteps.tail {steps : List Component} (are : AreSteps steps) :
    ∀ step ∈ steps.tail, step.IsPlain := by
  cases steps with
  | nil => exact List.forall_mem_nil _
  | cons first rest => exact are.2

/-- Steps that are left at the end are steps. -/
theorem AreSteps.drop {steps : List Component} (are : AreSteps steps) (n : Nat) :
    AreSteps (steps.drop n) := by
  cases n with
  | zero => exact are
  | succ n =>
    rw [← List.drop_tail]
    exact areSteps_of_isPlain fun step mem => are.tail step (List.mem_of_mem_drop mem)

/-! ## The steps of a text -/

/-- A plain step is written as one piece. -/
theorem pieces_text {step : Component} (plain : step.IsPlain) :
    pieces '/' step.text = [step.text] := by
  cases step with
  | root => exact plain.elim
  | here => exact plain.elim
  | up => decide
  | entry name => exact pieces_of_slash_not_mem plain.whole

/-- A plain step is read back from its text. -/
theorem componentOf?_text {step : Component} (plain : step.IsPlain) :
    componentOf? step.text = some step := by
  cases step with
  | root => exact plain.elim
  | here => exact plain.elim
  | up => decide
  | entry name =>
    rw [Component.text, componentOf?, if_neg (not_or.mpr ⟨plain.nonempty, plain.notHere⟩),
      if_neg plain.notUp]

/-- Plain steps are read back from their texts. -/
theorem filterMap_componentOf?_text {steps : List Component}
    (plain : ∀ step ∈ steps, step.IsPlain) :
    (steps.map Component.text).filterMap componentOf? = steps := by
  rw [List.filterMap_map]
  calc steps.filterMap (componentOf? ∘ Component.text) = steps.filterMap some :=
        List.filterMap_congr fun step mem => componentOf?_text (plain step mem)
    _ = steps := List.filterMap_some

/-- A piece of a path stands for a plain step if it stands for any. -/
theorem isPlain_of_componentOf? {piece : String} {step : Component} (whole : '/' ∉ piece.toList)
    (isStep : componentOf? piece = some step) : step.IsPlain := by
  rw [componentOf?] at isStep
  split at isStep
  · cases isStep
  · rename_i counts
    rw [not_or] at counts
    split at isStep
    · cases isStep
      trivial
    · rename_i notUp
      cases isStep
      exact ⟨counts.1, counts.2, notUp, whole⟩

/-- The steps of a path are steps. -/
theorem areSteps_components (path : String) : AreSteps (components path) := by
  have plain : ∀ step ∈ (pieces '/' path).filterMap componentOf?, step.IsPlain := by
    intro step mem
    obtain ⟨piece, isPiece, isStep⟩ := List.mem_filterMap.mp mem
    exact isPlain_of_componentOf? (slash_not_mem_of_mem_pieces isPiece) isStep
  rw [components]
  split
  · exact ⟨Or.inl rfl, plain⟩
  · split
    · exact ⟨Or.inr (Or.inl rfl), plain⟩
    · exact areSteps_of_isPlain plain

/-- The pieces of a path are those of its first step, then one for each further step. -/
theorem pieces_join_text (first : Component) {rest : List Component}
    (plain : ∀ step ∈ rest, step.IsPlain) :
    pieces '/' (Text.join "/" ((first :: rest).map Component.text)) =
      pieces '/' first.text ++ rest.map Component.text := by
  rw [List.map_cons, pieces_join_flatMap (List.cons_ne_nil _ _), List.flatMap_cons,
    List.flatMap_map]
  congr 1
  calc rest.flatMap (fun step => pieces '/' step.text) = rest.flatMap fun step => [step.text] :=
        List.flatMap_congr fun step mem => pieces_text (plain step mem)
    _ = rest.map Component.text := List.map_eq_flatMap.symm

/-- A path is relative if its first piece is not empty. -/
theorem isAbsolute_eq_false {first : String} {rest : List String} (nonempty : first ≠ "")
    (cut : pieces '/' path = first :: rest) : isAbsolute path = false := by
  by_contra absolute
  rw [Bool.not_eq_false] at absolute
  obtain ⟨others, -, split⟩ := isAbsolute_iff.mp absolute
  rw [cut] at split
  exact nonempty (List.cons.inj split).1

/-- Steps are read back from their text. -/
theorem components_text {steps : List Component} (are : AreSteps steps) :
    components (Text.join "/" (steps.map Component.text)) = steps := by
  cases steps with
  | nil => decide
  | cons first rest =>
    obtain ⟨kind, plain⟩ := are
    have cut := pieces_join_text first plain
    have further := filterMap_componentOf?_text plain
    rcases kind with rfl | rfl | plainFirst
    · -- The text of the root makes two empty pieces.
      have root : pieces '/' Component.root.text = ["", ""] := by decide
      rw [root] at cut
      have absolute := isAbsolute_iff.mpr ⟨_, List.cons_ne_nil _ _, cut⟩
      rw [components, if_pos absolute, cut]
      exact congrArg _ further
    · have here : pieces '/' Component.here.text = ["."] := by decide
      rw [here] at cut
      have relative := isAbsolute_eq_false (by decide) cut
      have head : (["."] ++ rest.map Component.text).head? = some "." := rfl
      rw [components, relative, if_neg (by decide), cut, if_pos head]
      exact congrArg _ further
    · have counts : first.text ≠ "" ∧ first.text ≠ "." := by
        have isStep := componentOf?_text plainFirst
        constructor
        all_goals
          intro same
          rw [same] at isStep
          cases isStep
      rw [pieces_text plainFirst] at cut
      have relative := isAbsolute_eq_false counts.1 cut
      have notHere : (pieces '/' (Text.join "/" ((first :: rest).map Component.text))).head? ≠
          some "." := by
        rw [cut]
        exact fun same => counts.2 (Option.some.inj same)
      rw [components, relative, if_neg (by decide), if_neg notHere, cut]
      have all : ∀ step ∈ first :: rest, step.IsPlain :=
        List.forall_mem_cons.mpr ⟨plainFirst, plain⟩
      exact filterMap_componentOf?_text all

/-! ## The steps of a path below another one -/

/-- A path with names that is no absolute one. -/
theorem isAbsolute_join_names (nonempty : names ≠ [])
    (fileNames : ∀ name ∈ names, IsFileName name) :
    isAbsolute (Text.join "/" names) = false := by
  obtain ⟨first, rest, rfl⟩ := List.exists_cons_of_ne_nil nonempty
  exact isAbsolute_eq_false (fileNames first List.mem_cons_self).nonempty
    (pieces_join nonempty fun name mem => (fileNames name mem).whole)

/-- A relative path below another one has the steps of both. -/
theorem components_join (nonempty : directory ≠ "") (relative : isAbsolute path = false) :
    components (join directory path) =
      components directory ++ (pieces '/' path).filterMap componentOf? := by
  obtain ⟨front, further, split, joined⟩ := exists_pieces_join nonempty relative
  have head : (pieces '/' directory).head? = front.head? := by
    rcases split with same | last
    · rw [same]
    · rw [last, List.head?_append_of_ne_nil front further]
  -- An empty last piece of the directory is no step.
  have steps : (pieces '/' directory).filterMap componentOf? = front.filterMap componentOf? := by
    rcases split with same | last
    · rw [same]
    · rw [last, List.filterMap_append]
      exact List.append_nil _
  rw [components, components, isAbsolute_join nonempty relative, joined, head, steps,
    List.head?_append_of_ne_nil front further, List.filterMap_append, List.append_assoc]

/-- Below a path names are steps of their own. -/
theorem components_join_names (directory : String) (nonempty : names ≠ [])
    (fileNames : ∀ name ∈ names, IsFileName name) :
    components (join directory (Text.join "/" names)) =
      components directory ++ names.map Component.entry := by
  have plain : ∀ step ∈ names.map Component.entry, step.IsPlain :=
    List.forall_mem_map.mpr fileNames
  have texts : (names.map Component.entry).map Component.text = names := by
    rw [List.map_map]
    exact List.map_id names
  by_cases empty : directory = ""
  · have own := components_text (areSteps_of_isPlain plain)
    have alone : components "" = [] := by decide
    rw [texts] at own
    rw [join, if_pos (Or.inr empty), own, empty, alone, List.nil_append]
  · have steps := filterMap_componentOf?_text plain
    rw [texts] at steps
    rw [components_join empty (isAbsolute_join_names nonempty fileNames),
      pieces_join nonempty fun name mem => (fileNames name mem).whole, steps]

/-- A path that begins at the root has it as its first step. -/
theorem exists_root_cons (absolute : isAbsolute path = true) :
    ∃ rest, components path = .root :: rest := by
  rw [components, if_pos absolute]
  exact ⟨_, rfl⟩

end Path

end TypedMvc.Files
