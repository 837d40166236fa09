import Mathlib.Combinatorics.Enumerative.DyckWord
import Mathlib.Data.Set.Card

/-!
# Rows of text in braces

The rows of a text on which a single brace stands make up blocks. They are balanced if their braces
are those of a Dyck word (`IsBalanced`), two of them go together if what stands between them is
balanced (`IsPair`), and such pairs enclose the rows between them (`enclosing`). In rows that are
put together from balanced ones and from blocks, the pairs are those of the parts and of the braces
around the blocks (`isPair_append`, `isPair_block`): a pair across the borders of a part would leave
a brace in it open.

Rows are `Nested` if they are put together like this and each is indented for the number of blocks
around it. Then every brace has another one that goes with it, with the same indentation
(`Nested.indentedAlike`), and the pairs around a row tell how far it is indented
(`Nested.isPlaced`).
-/

namespace TypedMvc.Declaration

open DyckStep

/-! ## Rows -/

/-- How many blanks there are in front of a row. -/
def indentOf (row : String) : ℕ := (row.toList.takeWhile (· == ' ')).length

/-- The step that a row makes if a single brace is all that stands on it behind the indentation: an
opening one goes down into a block, which is a step up, and a closing one goes out again. -/
def braceOf? (row : String) : Option DyckStep :=
  match row.toList.dropWhile (· == ' ') with
  | ['\x7b'] => some U
  | ['\x7d'] => some D
  | _ => none

/-- The braces of rows with nothing else on them. -/
def braces (rows : List String) : List DyckStep := rows.filterMap braceOf?

/-- The braces of rows are balanced: there are never more closing ones than opening ones, and in
the end there are as many. -/
def IsBalanced (rows : List String) : Prop := ∃ word : DyckWord, word.toList = braces rows

/-- A row with an opening brace and a later one with the closing brace that goes with it: what
stands between them is balanced. -/
inductive IsPair : List String → ℕ × ℕ → Prop where
  /-- The two rows, with rows in front, between and behind. -/
  | mk {before inside behind : List String} {opening closing : String}
    (opens : braceOf? opening = some U) (closes : braceOf? closing = some D)
    (balanced : IsBalanced inside) :
    IsPair (before ++ opening :: (inside ++ closing :: behind))
      (before.length, before.length + (inside.length + 1))

/-- The pairs of braces that enclose a place. -/
def enclosing (rows : List String) (place : ℕ) : Set (ℕ × ℕ) :=
  {pair | IsPair rows pair ∧ pair.1 < place ∧ place < pair.2}

variable {rows front back inside : List String} {row opening closing : String} {pair : ℕ × ℕ}
  {depth place : ℕ}

/-! ## Balanced rows -/

theorem braces_append (front back : List String) :
    braces (front ++ back) = braces front ++ braces back := List.filterMap_append

theorem braces_cons_of_some {step : DyckStep} (brace : braceOf? row = some step)
    (rows : List String) : braces (row :: rows) = step :: braces rows :=
  List.filterMap_cons_some brace

theorem braces_cons_of_none (text : braceOf? row = none) (rows : List String) :
    braces (row :: rows) = braces rows := List.filterMap_cons_none text

theorem isBalanced_nil : IsBalanced [] := ⟨0, rfl⟩

theorem isBalanced_singleton (text : braceOf? row = none) : IsBalanced [row] :=
  ⟨0, (braces_cons_of_none text []).symm⟩

theorem IsBalanced.append (balanced : IsBalanced front) (balanced' : IsBalanced back) :
    IsBalanced (front ++ back) := by
  obtain ⟨word, first⟩ := balanced
  obtain ⟨word', second⟩ := balanced'
  refine ⟨word + word', ?_⟩
  rw [braces_append, ← first, ← second]
  rfl

theorem IsBalanced.block (opens : braceOf? opening = some U) (closes : braceOf? closing = some D)
    (balanced : IsBalanced inside) : IsBalanced (opening :: (inside ++ [closing])) := by
  obtain ⟨word, same⟩ := balanced
  refine ⟨word.nest, ?_⟩
  rw [braces_cons_of_some opens, braces_append, braces_cons_of_some closes, ← same]
  rfl

/-- There are as many braces of both kinds in balanced rows. -/
theorem IsBalanced.count_eq (balanced : IsBalanced rows) :
    (braces rows).count U = (braces rows).count D := by
  obtain ⟨word, same⟩ := balanced
  rw [← same]
  exact word.count_U_eq_count_D

/-- There are no more closing braces than opening ones at the beginning of balanced rows. -/
theorem IsBalanced.count_le (balanced : IsBalanced (front ++ back)) :
    (braces front).count D ≤ (braces front).count U := by
  obtain ⟨word, same⟩ := balanced
  have le := word.count_D_le_count_U (braces front).length
  rwa [same, braces_append, List.take_left] at le

/-- An opening brace in balanced rows is not the last one to be left open: its row and what is
balanced behind it do not end them. -/
theorem IsBalanced.not_opening (balanced : IsBalanced (front ++ opening :: back))
    (opens : braceOf? opening = some U) (rest : List String) (begins : IsBalanced (back ++ rest)) :
    False := by
  have whole := balanced.count_eq
  have first := balanced.count_le
  have second := begins.count_le
  rw [braces_append, braces_cons_of_some opens, List.count_append, List.count_append,
    List.count_cons_self, List.count_cons_of_ne (by decide)] at whole
  omega

/-- What is balanced at the beginning of balanced rows is not followed by a closing brace. -/
theorem IsBalanced.not_closing (balanced : IsBalanced (front ++ closing :: back))
    (closes : braceOf? closing = some D) (begins : IsBalanced front) : False := by
  have whole := begins.count_eq
  have split : front ++ closing :: back = (front ++ [closing]) ++ back := by simp
  rw [split] at balanced
  have first := balanced.count_le
  rw [braces_append, braces_cons_of_some closes, List.count_append, List.count_append,
    List.count_cons_self, List.count_cons_of_ne (by decide)] at first
  simp only [braces, List.filterMap_nil, List.count_nil] at first whole
  omega

/-! ## Pairs in rows that are put together -/

/-- The same pair some rows further down. -/
def shift (rows : ℕ) (pair : ℕ × ℕ) : ℕ × ℕ := (rows + pair.1, rows + pair.2)

theorem shift_injective (rows : ℕ) : Function.Injective (shift rows) := by
  rintro ⟨i, j⟩ ⟨i', j'⟩ same
  obtain ⟨first, second⟩ := Prod.mk.inj same
  exact Prod.ext (Nat.add_left_cancel first) (Nat.add_left_cancel second)

/-- A pair stands on two rows, the opening brace in front. -/
theorem IsPair.lt (isPair : IsPair rows pair) : pair.1 < pair.2 ∧ pair.2 < rows.length := by
  obtain ⟨opens, closes, balanced⟩ := isPair
  simp only [List.length_append, List.length_cons]
  omega

/-- A single row is too few for a pair. -/
theorem not_isPair_singleton (row : String) (pair : ℕ × ℕ) : ¬ IsPair [row] pair := by
  intro isPair
  have bounds := isPair.lt
  rw [List.length_singleton] at bounds
  omega

/-- A pair is one with more rows behind it. -/
theorem IsPair.append_right (isPair : IsPair front pair) (back : List String) :
    IsPair (front ++ back) pair := by
  obtain ⟨opens, closes, balanced⟩ := isPair
  rw [List.append_assoc, List.cons_append, List.append_assoc, List.cons_append]
  exact .mk opens closes balanced

/-- A pair is one with more rows in front of it. -/
theorem IsPair.append_left (isPair : IsPair back pair) (front : List String) :
    IsPair (front ++ back) (shift front.length pair) := by
  obtain ⟨opens, closes, balanced⟩ := isPair
  rename_i before inside behind opening closing
  have moved : shift front.length (before.length, before.length + (inside.length + 1)) =
      ((front ++ before).length, (front ++ before).length + (inside.length + 1)) := by
    rw [shift, List.length_append, Nat.add_assoc]
  rw [moved, ← List.append_assoc]
  exact .mk opens closes balanced

/-- The pairs of balanced rows and of those behind them are all pairs of both together. -/
theorem isPair_append (balanced : IsBalanced front) :
    IsPair (front ++ back) pair ↔
      IsPair front pair ∨ ∃ own, IsPair back own ∧ shift front.length own = pair := by
  constructor
  · intro isPair
    generalize whole : front ++ back = rows at isPair
    obtain ⟨opens, closes, inner⟩ := isPair
    rename_i before inside behind opening closing
    -- Either the opening brace is among the rows behind, and the whole pair with it, or not.
    rcases List.append_eq_append_iff.mp whole with ⟨between, rfl, rfl⟩ | ⟨further, rfl, split⟩
    · right
      refine ⟨_, .mk opens closes inner, ?_⟩
      rw [shift, List.length_append, Nat.add_assoc]
    · cases further with
      | nil =>
        right
        rw [List.nil_append] at split
        subst split
        have begins : IsPair ([] ++ opening :: (inside ++ closing :: behind))
            (0, 0 + (inside.length + 1)) := .mk opens closes inner
        refine ⟨_, begins, ?_⟩
        rw [shift, List.append_nil, Nat.add_zero, Nat.zero_add]
      | cons first more =>
        obtain ⟨rfl, behindOpening⟩ := List.cons.inj split
        -- The opening brace is among the balanced rows, so the closing one is as well.
        obtain ⟨between, rfl, last⟩ | ⟨rest, rfl, -⟩ := List.append_eq_append_iff.mp behindOpening
        · cases between with
          | nil =>
            have closed : IsBalanced (inside ++ []) := by rwa [List.append_nil]
            exact (balanced.not_opening opens [] (by simpa using closed)).elim
          | cons own between =>
            left
            obtain ⟨rfl, -⟩ := List.cons.inj last
            exact .mk opens closes inner
        · exact (balanced.not_opening opens rest inner).elim
  · rintro (isPair | ⟨own, isPair, rfl⟩)
    · exact isPair.append_right back
    · exact isPair.append_left front

/-- The pairs of a block are that of its own braces, and those of what is inside it. -/
theorem isPair_block (opens : braceOf? opening = some U) (closes : braceOf? closing = some D)
    (balanced : IsBalanced inside) :
    IsPair (opening :: (inside ++ [closing])) pair ↔
      pair = (0, inside.length + 1) ∨ ∃ own, IsPair inside own ∧ shift 1 own = pair := by
  constructor
  · intro isPair
    generalize whole : opening :: (inside ++ [closing]) = rows at isPair
    obtain ⟨opens', closes', inner⟩ := isPair
    rename_i before inside' behind opening' closing'
    cases before with
    | nil =>
      left
      obtain ⟨rfl, split⟩ := List.cons.inj whole
      -- From here on the closing brace is the last row, or it would close what is balanced inside.
      obtain ⟨further, rfl, last⟩ | ⟨rest, rfl, last⟩ := List.append_eq_append_iff.mp split
      · cases further with
        | nil => rw [List.append_nil, List.length_nil, Nat.zero_add]
        | cons first more => exact absurd (List.cons.inj last).2.symm (by simp)
      · cases rest with
        | nil => rw [List.append_nil, List.length_nil, Nat.zero_add]
        | cons first more =>
          obtain ⟨rfl, -⟩ := List.cons.inj last
          exact (balanced.not_closing closes' inner).elim
    | cons first before =>
      right
      obtain ⟨rfl, split⟩ := List.cons.inj whole
      -- The pair stands on rows behind the opening brace, and the closing one is none of them.
      have isPair : IsPair (inside ++ [closing])
          (before.length, before.length + (inside'.length + 1)) :=
        split ▸ .mk opens' closes' inner
      obtain own | ⟨own, alone, -⟩ := (isPair_append balanced).mp isPair
      · refine ⟨_, own, ?_⟩
        rw [shift, List.length_cons]
        exact Prod.ext (Nat.add_comm 1 _) (by dsimp only; omega)
      · exact absurd alone (not_isPair_singleton closing own)
  · rintro (rfl | ⟨own, isPair, rfl⟩)
    · have own : IsPair ([] ++ opening :: (inside ++ closing :: []))
          (0, 0 + (inside.length + 1)) := .mk opens closes balanced
      rwa [Nat.zero_add] at own
    · exact (isPair.append_right [closing]).append_left [opening]

/-! ## What encloses a place -/

theorem enclosing_append_left (balanced : IsBalanced front) (inFront : place < front.length) :
    enclosing (front ++ back) place = enclosing front place := by
  ext pair
  constructor
  · rintro ⟨isPair, before, behind⟩
    obtain own | ⟨own, -, rfl⟩ := (isPair_append balanced).mp isPair
    · exact ⟨own, before, behind⟩
    · exact absurd (Nat.lt_of_le_of_lt (Nat.le_add_right _ _) before) (Nat.lt_asymm inFront)
  · rintro ⟨isPair, before, behind⟩
    exact ⟨isPair.append_right back, before, behind⟩

theorem enclosing_append_right (balanced : IsBalanced front) :
    enclosing (front ++ back) (front.length + place) =
      shift front.length '' enclosing back place := by
  ext pair
  constructor
  · rintro ⟨isPair, before, behind⟩
    obtain own | ⟨own, isOwn, rfl⟩ := (isPair_append balanced).mp isPair
    · exact absurd (behind.trans own.lt.2) (Nat.not_lt.mpr (Nat.le_add_right _ _))
    · exact ⟨own, ⟨isOwn, Nat.lt_of_add_lt_add_left before, Nat.lt_of_add_lt_add_left behind⟩, rfl⟩
  · rintro ⟨own, ⟨isPair, before, behind⟩, rfl⟩
    exact ⟨isPair.append_left front, Nat.add_lt_add_left before _, Nat.add_lt_add_left behind _⟩

/-- A place in a block is enclosed by the braces of the block and by what encloses it inside. -/
theorem enclosing_block (opens : braceOf? opening = some U) (closes : braceOf? closing = some D)
    (balanced : IsBalanced inside) (isInside : place < inside.length) :
    enclosing (opening :: (inside ++ [closing])) (1 + place) =
      insert (0, inside.length + 1) (shift 1 '' enclosing inside place) := by
  ext pair
  constructor
  · rintro ⟨isPair, before, behind⟩
    obtain rfl | ⟨own, isOwn, rfl⟩ := (isPair_block opens closes balanced).mp isPair
    · exact Set.mem_insert _ _
    · exact Set.mem_insert_of_mem _
        ⟨own, ⟨isOwn, Nat.lt_of_add_lt_add_left before, Nat.lt_of_add_lt_add_left behind⟩, rfl⟩
  · rintro (rfl | ⟨own, ⟨isPair, before, behind⟩, rfl⟩)
    · exact ⟨(isPair_block opens closes balanced).mpr (Or.inl rfl), by omega, by omega⟩
    · exact ⟨(isPair_block opens closes balanced).mpr (Or.inr ⟨own, isPair, rfl⟩),
        Nat.add_lt_add_left before 1, Nat.add_lt_add_left behind 1⟩

theorem enclosing_zero (rows : List String) : enclosing rows 0 = ∅ :=
  Set.eq_empty_of_forall_notMem fun _ ⟨_, before, _⟩ => Nat.not_lt_zero _ before

theorem enclosing_last (atEnd : rows.length ≤ place + 1) : enclosing rows place = ∅ := by
  refine Set.eq_empty_of_forall_notMem ?_
  rintro pair ⟨isPair, before, behind⟩
  have bound := isPair.lt.2
  omega

/-! ## Nested rows -/

/-- Rows of which each is indented for the depth that the braces around it make, from a certain
depth on. -/
inductive Nested : ℕ → List String → Prop where
  /-- No rows. -/
  | nil {depth : ℕ} : Nested depth []
  /-- A row without a brace, which is indented unless it is blank. -/
  | row {depth : ℕ} {row : String} {rows : List String} (isText : braceOf? row = none)
    (indented : row ≠ "" → indentOf row = 4 * depth) (nested : Nested depth rows) :
    Nested depth (row :: rows)
  /-- A block with its two braces. -/
  | block {depth : ℕ} {opening closing : String} {inside rows : List String}
    (opens : braceOf? opening = some U) (closes : braceOf? closing = some D)
    (indented : indentOf opening = 4 * depth) (indented' : indentOf closing = 4 * depth)
    (deeper : Nested (depth + 1) inside) (nested : Nested depth rows) :
    Nested depth (opening :: (inside ++ [closing]) ++ rows)

theorem Nested.append (nested : Nested depth front) (nested' : Nested depth back) :
    Nested depth (front ++ back) := by
  induction nested with
  | nil => exact nested'
  | row isText indented _ ih => exact .row isText indented (ih nested')
  | block opens closes indented indented' deeper _ _ ih =>
    rw [List.append_assoc]
    exact .block opens closes indented indented' deeper (ih nested')

/-- Nested rows are balanced. -/
theorem Nested.isBalanced (nested : Nested depth rows) : IsBalanced rows := by
  induction nested with
  | nil => exact isBalanced_nil
  | row isText _ _ ih => exact (isBalanced_singleton isText).append ih
  | block opens closes _ _ _ _ ihInside ih => exact (ihInside.block opens closes).append ih

/-- The two rows of a pair are indented alike. -/
def IndentedAlike (rows : List String) (pair : ℕ × ℕ) : Prop :=
  rows[pair.1]?.map indentOf = rows[pair.2]?.map indentOf

theorem IndentedAlike.append_right (alike : IndentedAlike front pair) (isPair : IsPair front pair)
    (back : List String) : IndentedAlike (front ++ back) pair := by
  unfold IndentedAlike
  rw [List.getElem?_append_left (isPair.lt.1.trans isPair.lt.2),
    List.getElem?_append_left isPair.lt.2]
  exact alike

theorem IndentedAlike.append_left (alike : IndentedAlike back pair) (front : List String) :
    IndentedAlike (front ++ back) (shift front.length pair) := by
  unfold IndentedAlike shift
  rw [List.getElem?_append_right (Nat.le_add_right _ _), Nat.add_sub_cancel_left,
    List.getElem?_append_right (Nat.le_add_right _ _), Nat.add_sub_cancel_left]
  exact alike

/-- The two braces of a pair in nested rows are indented alike. -/
theorem Nested.indentedAlike (nested : Nested depth rows) (isPair : IsPair rows pair) :
    IndentedAlike rows pair := by
  induction nested generalizing pair with
  | nil => exact absurd isPair.lt.2 (Nat.not_lt_zero _)
  | row isText _ _ ih =>
    obtain alone | ⟨own, isOwn, rfl⟩ := (isPair_append (isBalanced_singleton isText)).mp isPair
    · exact absurd alone (not_isPair_singleton _ pair)
    · exact (ih isOwn).append_left [_]
  | @block depth opening closing inside rows opens closes indented indented' deeper nested ihInside
      ih =>
    have balanced := deeper.isBalanced
    obtain inBlock | ⟨own, isOwn, rfl⟩ :=
      (isPair_append (balanced.block opens closes)).mp isPair
    · refine IndentedAlike.append_right ?_ inBlock rows
      obtain rfl | ⟨own, isOwn, rfl⟩ := (isPair_block opens closes balanced).mp inBlock
      · unfold IndentedAlike
        rw [List.getElem?_cons_zero, List.getElem?_cons_succ, List.getElem?_concat_length,
          Option.map_some, Option.map_some, indented, indented']
      · exact ((ihInside isOwn).append_right isOwn [closing]).append_left [opening]
    · exact (ih isOwn).append_left _

/-- A row at a place of rows from a certain depth on: if it is not blank, it is indented for that
depth and the braces around it, and if it is a brace, it belongs to a pair. -/
structure IsPlaced (depth : ℕ) (rows : List String) (place : ℕ) (row : String) : Prop where
  /-- Each level from outside and each pair around the row makes four blanks. -/
  indented : row ≠ "" → (indentOf row : ℕ∞) = 4 * (depth + (enclosing rows place).encard)
  /-- A brace has another one that goes with it. -/
  paired : braceOf? row ≠ none → ∃ pair, IsPair rows pair ∧ (pair.1 = place ∨ pair.2 = place)

theorem IsPlaced.append_right (placed : IsPlaced depth front place row)
    (balanced : IsBalanced front) (inFront : place < front.length) (back : List String) :
    IsPlaced depth (front ++ back) place row := by
  refine ⟨fun nonempty => ?_, fun isBrace => ?_⟩
  · rw [enclosing_append_left balanced inFront]
    exact placed.indented nonempty
  · obtain ⟨pair, isPair, here⟩ := placed.paired isBrace
    exact ⟨pair, isPair.append_right back, here⟩

theorem IsPlaced.append_left (placed : IsPlaced depth back place row)
    (balanced : IsBalanced front) : IsPlaced depth (front ++ back) (front.length + place) row := by
  refine ⟨fun nonempty => ?_, fun isBrace => ?_⟩
  · rw [enclosing_append_right balanced, (shift_injective _).encard_image]
    exact placed.indented nonempty
  · obtain ⟨pair, isPair, here⟩ := placed.paired isBrace
    exact ⟨_, isPair.append_left front, here.imp (congrArg _) (congrArg _)⟩

/-- What is placed one level deeper is placed in a block around it. -/
theorem IsPlaced.block (placed : IsPlaced (depth + 1) inside place row)
    (opens : braceOf? opening = some U) (closes : braceOf? closing = some D)
    (balanced : IsBalanced inside) (isInside : place < inside.length) :
    IsPlaced depth (opening :: (inside ++ [closing])) (1 + place) row := by
  refine ⟨fun nonempty => ?_, fun isBrace => ?_⟩
  · have outside : (0, inside.length + 1) ∉ shift 1 '' enclosing inside place := by
      rintro ⟨own, -, same⟩
      exact absurd (congrArg Prod.fst same) (by simp [shift])
    rw [enclosing_block opens closes balanced isInside, Set.encard_insert_of_notMem outside,
      (shift_injective _).encard_image, placed.indented nonempty, Nat.cast_add, Nat.cast_one,
      add_assoc, add_comm (1 : ℕ∞)]
  · obtain ⟨pair, isPair, here⟩ := placed.paired isBrace
    exact ⟨_, (isPair_block opens closes balanced).mpr (Or.inr ⟨pair, isPair, rfl⟩),
      here.imp (congrArg _) (congrArg _)⟩

/-- A row that nothing encloses is placed if it is indented for its depth. -/
theorem isPlaced_of_enclosing (indented : row ≠ "" → indentOf row = 4 * depth)
    (outside : enclosing rows place = ∅)
    (paired : braceOf? row ≠ none → ∃ pair, IsPair rows pair ∧ (pair.1 = place ∨ pair.2 = place)) :
    IsPlaced depth rows place row := by
  refine ⟨fun nonempty => ?_, paired⟩
  rw [outside, Set.encard_empty, indented nonempty, add_zero, Nat.cast_mul, Nat.cast_ofNat]

/-- Every row of a block is placed if those inside it are, one level deeper. -/
theorem isPlaced_block (opens : braceOf? opening = some U) (closes : braceOf? closing = some D)
    (indented : indentOf opening = 4 * depth) (indented' : indentOf closing = 4 * depth)
    (balanced : IsBalanced inside)
    (deeper : ∀ place row, inside[place]? = some row → IsPlaced (depth + 1) inside place row)
    (isRow : (opening :: (inside ++ [closing]))[place]? = some row) :
    IsPlaced depth (opening :: (inside ++ [closing])) place row := by
  have ownPair : IsPair (opening :: (inside ++ [closing])) (0, inside.length + 1) :=
    (isPair_block opens closes balanced).mpr (Or.inl rfl)
  cases place with
  | zero =>
    cases isRow
    exact isPlaced_of_enclosing (fun _ => indented) (enclosing_zero _)
      fun _ => ⟨_, ownPair, Or.inl rfl⟩
  | succ place =>
    rw [List.getElem?_cons_succ] at isRow
    rcases Nat.lt_or_ge place inside.length with isInside | atEnd
    · rw [List.getElem?_append_left isInside] at isRow
      rw [Nat.add_comm]
      exact (deeper place row isRow).block opens closes balanced isInside
    · obtain ⟨rfl, rfl⟩ : place = inside.length ∧ row = closing := by
        obtain ⟨further, rfl⟩ := Nat.exists_eq_add_of_le atEnd
        rw [List.getElem?_append_right atEnd, Nat.add_sub_cancel_left] at isRow
        cases further with
        | zero => exact ⟨rfl, (Option.some.inj isRow).symm⟩
        | succ _ => cases isRow
      exact isPlaced_of_enclosing (fun _ => indented') (enclosing_last (by simp))
        fun _ => ⟨_, ownPair, Or.inr rfl⟩

/-- Every row of nested ones is placed. -/
theorem Nested.isPlaced (nested : Nested depth rows) (isRow : rows[place]? = some row) :
    IsPlaced depth rows place row := by
  induction nested generalizing place row with
  | nil => cases isRow
  | row isText indented _ ih =>
    cases place with
    | zero =>
      cases isRow
      exact isPlaced_of_enclosing indented (enclosing_zero _) (absurd isText)
    | succ place =>
      rw [Nat.add_comm]
      exact (ih isRow).append_left (isBalanced_singleton isText)
  | @block depth opening closing inside rows opens closes indented indented' deeper nested ihInside
      ih =>
    have balanced := deeper.isBalanced.block opens closes
    rcases Nat.lt_or_ge place (opening :: (inside ++ [closing])).length with inBlock | behind
    · rw [List.getElem?_append_left inBlock] at isRow
      have placed := isPlaced_block opens closes indented indented' deeper.isBalanced
        (fun _ _ => ihInside) isRow
      exact placed.append_right balanced inBlock rows
    · obtain ⟨further, rfl⟩ := Nat.exists_eq_add_of_le behind
      rw [List.getElem?_append_right behind, Nat.add_sub_cancel_left] at isRow
      exact (ih isRow).append_left balanced

end TypedMvc.Declaration
