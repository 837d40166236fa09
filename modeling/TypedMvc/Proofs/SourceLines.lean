import TypedMvc.Declaration.Render

/-!
# The lines of a source text

A text that is written piece by piece can be read again if it shows where each piece ends. A piece
shows it if its characters pass a test that the character behind it fails
(`append_inj_of_run`). So a line is read from its indentation, which ends at the first character
that is no blank, and its text, which ends at the line feed (`Line.chars_append_inj`), and the lines
of a text are the only ones that give it (`flatMap_chars_inj`).
-/

namespace TypedMvc.Declaration

/-! ## Where a piece ends -/

section Runs

variable {α : Type} {test : α → Bool}

/-- A beginning that passes a test is the longest one if what comes next fails the test. -/
theorem takeWhile_append_of_ends {run rest : List α} (inside : ∀ c ∈ run, test c = true)
    (ends : ∀ c ∈ rest.head?, test c = false) : (run ++ rest).takeWhile test = run := by
  have stops : rest.takeWhile test = [] := by
    cases rest with
    | nil => rfl
    | cons c rest => rw [List.takeWhile_cons, ends c rfl, if_neg Bool.false_ne_true]
  rw [List.takeWhile_append_of_pos inside, stops, List.append_nil]

/-- A list can be cut in one way only into a beginning that passes a test and a rest whose first
element fails it. -/
theorem append_inj_of_run {a b x y : List α} (insideA : ∀ c ∈ a, test c = true)
    (insideB : ∀ c ∈ b, test c = true) (endsA : ∀ c ∈ x.head?, test c = false)
    (endsB : ∀ c ∈ y.head?, test c = false) (same : a ++ x = b ++ y) : a = b ∧ x = y := by
  have runs : a = b := calc
    a = (a ++ x).takeWhile test := (takeWhile_append_of_ends insideA endsA).symm
    _ = (b ++ y).takeWhile test := by rw [same]
    _ = b := takeWhile_append_of_ends insideB endsB
  subst runs
  exact ⟨rfl, List.append_cancel_left same⟩

end Runs

/-! ## One line -/

/-- A line whose characters show where its text begins and ends. -/
structure Line.IsPlain (line : Line) : Prop where
  /-- There is no line feed in the text. -/
  unbroken : '\n' ∉ line.text.toList
  /-- The text does not begin with a blank. -/
  unindented : line.text.toList.head? ≠ some ' '

instance (line : Line) : Decidable line.IsPlain :=
  decidable_of_iff
    ('\n' ∉ line.text.toList ∧ line.text.toList.head? ≠ some ' ')
    ⟨fun h => ⟨h.1, h.2⟩, fun h => ⟨h.unbroken, h.unindented⟩⟩

/-- Whether a line is plain does not depend on its depth. -/
theorem Line.IsPlain.atDepth {text : String} (plain : (⟨0, text⟩ : Line).IsPlain) (depth : Nat) :
    (⟨depth, text⟩ : Line).IsPlain :=
  ⟨plain.unbroken, plain.unindented⟩

/-- A step of indentation is four blanks. -/
theorem Line.chars_eq (line : Line) :
    line.chars = List.replicate (line.depth * 4) ' ' ++ (line.text.toList ++ ['\n']) := by
  have step : indentation = List.replicate 4 ' ' := rfl
  rw [Line.chars, List.append_assoc, step, List.flatten_replicate_replicate]

/-- What is written behind the line feed of a line does not matter for reading the line. -/
theorem Line.chars_append_inj {a b : Line} (plainA : a.IsPlain) (plainB : b.IsPlain)
    {x y : List Char} (same : a.chars ++ x = b.chars ++ y) : a = b ∧ x = y := by
  have blanks : ∀ n, ∀ c ∈ List.replicate n ' ', (c == ' ') = true :=
    fun n c mem => beq_iff_eq.mpr (List.eq_of_mem_replicate mem)
  -- The text of a line may be empty, and then the line feed ends the indentation.
  have text : ∀ {line : Line} {rest : List Char}, line.IsPlain →
      ∀ c ∈ (line.text.toList ++ '\n' :: rest).head?, (c == ' ') = false := by
    intro line rest plain c first
    rw [beq_eq_false_iff_ne]
    cases chars : line.text.toList with
    | nil =>
      rw [chars] at first
      obtain rfl : '\n' = c := Option.some.inj first
      decide
    | cons d more =>
      rintro rfl
      exact plain.unindented (by rw [chars] at first ⊢; exact first)
  simp only [Line.chars_eq, List.append_assoc, List.singleton_append] at same
  -- First the indentation is read, then the text up to the line feed.
  obtain ⟨depths, texts⟩ :=
    append_inj_of_run (blanks _) (blanks _) (text plainA) (text plainB) same
  have feed : ∀ (rest : List Char), ∀ c ∈ ('\n' :: rest).head?, (c != '\n') = false := by
    rintro rest c ⟨⟩
    rfl
  have unbroken : ∀ {line : Line}, line.IsPlain → ∀ c ∈ line.text.toList, (c != '\n') = true :=
    fun plain c mem => bne_iff_ne.mpr fun isFeed => plain.unbroken (isFeed ▸ mem)
  obtain ⟨texts, rests⟩ :=
    append_inj_of_run (unbroken plainA) (unbroken plainB) (feed x) (feed y) texts
  have depth : a.depth = b.depth := by
    have lengths := congrArg List.length depths
    rw [List.length_replicate, List.length_replicate] at lengths
    omega
  obtain ⟨da, ta⟩ := a
  obtain ⟨db, tb⟩ := b
  obtain rfl : ta = tb := String.toList_injective texts
  obtain rfl : da = db := depth
  exact ⟨rfl, (List.cons.inj rests).2⟩

/-! ## All lines -/

/-- A line is never empty, as it ends in a line feed. -/
theorem Line.chars_ne_nil (line : Line) : line.chars ≠ [] :=
  List.append_ne_nil_of_right_ne_nil _ (List.cons_ne_nil _ _)

/-- Plain lines are determined by the text that they make. -/
theorem flatMap_chars_inj {a b : List Line} (plainA : ∀ line ∈ a, line.IsPlain)
    (plainB : ∀ line ∈ b, line.IsPlain) (same : a.flatMap Line.chars = b.flatMap Line.chars) :
    a = b := by
  induction a generalizing b with
  | nil =>
    cases b with
    | nil => rfl
    | cons line rest =>
      exact absurd (List.append_eq_nil_iff.mp same.symm).1 line.chars_ne_nil
  | cons line rest ih =>
    cases b with
    | nil => exact absurd (List.append_eq_nil_iff.mp same).1 line.chars_ne_nil
    | cons other more =>
      obtain ⟨plainLine, plainRest⟩ := List.forall_mem_cons.mp plainA
      obtain ⟨plainOther, plainMore⟩ := List.forall_mem_cons.mp plainB
      rw [List.flatMap_cons, List.flatMap_cons] at same
      obtain ⟨rfl, rests⟩ := Line.chars_append_inj plainLine plainOther same
      rw [ih plainRest plainMore rests]

end TypedMvc.Declaration
