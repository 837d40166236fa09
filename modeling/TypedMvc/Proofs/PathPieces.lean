import Mathlib.Data.List.Basic
import TypedMvc.Files.Path

/-!
# The pieces of paths that are put together

A path cut at its slashes, for paths made from others. A text put together from pieces falls into
them again (`pieces_join`), a path below another one into the pieces of both
(`Path.exists_pieces_join`), and the path above one with a name at its end into the first pieces of
that (`Path.pieces_parent`).
-/

namespace TypedMvc.Text

/-! ## Cutting and putting together -/

/-- A text with a separator in it falls into the pieces in front of it and those behind it. -/
theorem piecesOf_append (separator : Char) (front behind : List Char) :
    piecesOf separator (front ++ separator :: behind) =
      piecesOf separator front ++ piecesOf separator behind := by
  induction front with
  | nil => simp [piecesOf]
  | cons c rest ih =>
    by_cases isSeparator : c = separator
    · simp [piecesOf, isSeparator, ih]
    · obtain ⟨first, others, split⟩ :=
        List.exists_cons_of_ne_nil (piecesOf_ne_nil separator rest)
      simp [piecesOf, isSeparator, ih, split]

/-- A text without a separator is one piece. -/
theorem piecesOf_of_not_mem {separator : Char} {text : List Char} (whole : separator ∉ text) :
    piecesOf separator text = [text] := by
  induction text with
  | nil => rfl
  | cons c rest ih =>
    rw [List.mem_cons, not_or] at whole
    rw [piecesOf, if_neg (Ne.symm whole.1), ih whole.2]

/-- There is no separator in a piece. -/
theorem not_mem_of_mem_piecesOf {separator : Char} {text piece : List Char}
    (mem : piece ∈ piecesOf separator text) : separator ∉ piece := by
  induction text generalizing piece with
  | nil => simp_all [piecesOf]
  | cons c rest ih =>
    obtain ⟨first, others, split⟩ := List.exists_cons_of_ne_nil (piecesOf_ne_nil separator rest)
    by_cases isSeparator : c = separator
    · rw [piecesOf, if_pos isSeparator, List.mem_cons] at mem
      rcases mem with rfl | later
      · exact List.not_mem_nil
      · exact ih later
    · rw [piecesOf, if_neg isSeparator, split] at mem
      rcases List.mem_cons.mp mem with rfl | later
      · rw [List.mem_cons, not_or]
        exact ⟨Ne.symm isSeparator, ih (split ▸ List.mem_cons_self)⟩
      · exact ih (split ▸ List.mem_cons_of_mem first later)

/-- A path with a slash in it falls into the pieces in front of it and those behind it. -/
theorem pieces_append (front behind : String) :
    pieces '/' (front ++ "/" ++ behind) = pieces '/' front ++ pieces '/' behind := by
  have chars : (front ++ "/" ++ behind).toList = front.toList ++ '/' :: behind.toList := by
    simp [String.toList_append]
  rw [pieces, chars, piecesOf_append, List.map_append]
  rfl

/-- There is no slash in a piece. -/
theorem slash_not_mem_of_mem_pieces {path piece : String} (mem : piece ∈ pieces '/' path) :
    '/' ∉ piece.toList := by
  obtain ⟨chars, isPiece, rfl⟩ := List.mem_map.mp mem
  rw [String.toList_ofList]
  exact not_mem_of_mem_piecesOf isPiece

/-- There is at least one piece. -/
theorem pieces_ne_nil (path : String) : pieces '/' path ≠ [] := by
  rw [pieces, Ne, List.map_eq_nil_iff]
  exact piecesOf_ne_nil '/' path.toList

/-- A text without a slash is the only piece of it. -/
theorem pieces_of_slash_not_mem {part : String} (whole : '/' ∉ part.toList) :
    pieces '/' part = [part] := by
  rw [pieces, piecesOf_of_not_mem whole, List.map_singleton, String.ofList_toList]

/-- A path that is put together from parts falls into their pieces. -/
theorem pieces_join_flatMap {parts : List String} (nonempty : parts ≠ []) :
    pieces '/' (join "/" parts) = parts.flatMap (pieces '/') := by
  induction parts with
  | nil => exact absurd rfl nonempty
  | cons part rest ih =>
    cases rest with
    | nil => rw [join, List.flatMap_singleton]
    | cons next rest =>
      rw [join, pieces_append, ih (List.cons_ne_nil next rest), ← List.flatMap_cons]
      exact List.cons_ne_nil next rest

/-- A path that is put together from pieces falls into them. -/
theorem pieces_join {parts : List String} (nonempty : parts ≠ [])
    (whole : ∀ part ∈ parts, '/' ∉ part.toList) : pieces '/' (join "/" parts) = parts := by
  rw [pieces_join_flatMap nonempty]
  calc parts.flatMap (pieces '/') = parts.flatMap fun part => [part] :=
        List.flatMap_congr fun part mem => pieces_of_slash_not_mem (whole part mem)
    _ = parts := List.flatMap_singleton' parts

end TypedMvc.Text

namespace TypedMvc.Files.Path

open Text

/-! ## Paths -/

variable {path directory : String}

/-- A path is absolute exactly if its first piece is empty and not the only one. -/
theorem isAbsolute_iff :
    isAbsolute path = true ↔ ∃ rest, rest ≠ [] ∧ pieces '/' path = "" :: rest := by
  rw [isAbsolute, pieces]
  cases chars : path.toList with
  | nil => simp [piecesOf]
  | cons c rest =>
    by_cases slash : c = '/'
    · simp [piecesOf, slash, piecesOf_ne_nil]
    · obtain ⟨first, others, split⟩ := List.exists_cons_of_ne_nil (piecesOf_ne_nil '/' rest)
      simp [piecesOf, slash, split]

/-- A path that falls into the first pieces of another one begins where that does, unless its only
piece is empty. -/
theorem isAbsolute_eq_of_pieces {other first : String} {others more : List String}
    (front : pieces '/' other = first :: others)
    (whole : pieces '/' path = first :: (others ++ more))
    (notLone : first = "" → others ≠ []) (goesOn : others ++ more ≠ []) :
    isAbsolute other = isAbsolute path := by
  rw [Bool.eq_iff_iff, isAbsolute_iff, isAbsolute_iff, front, whole]
  constructor
  · rintro ⟨_, -, same⟩
    rw [(List.cons.inj same).1]
    exact ⟨others ++ more, goesOn, rfl⟩
  · rintro ⟨_, -, same⟩
    have isEmpty := (List.cons.inj same).1
    exact ⟨others, notLone isEmpty, by rw [isEmpty]⟩

/-- A path that is no absolute one falls into pieces behind those of the directory in front of it,
of which an empty last one may be missing. -/
theorem exists_pieces_join (nonempty : directory ≠ "") (relative : isAbsolute path = false) :
    ∃ front, front ≠ [] ∧ (pieces '/' directory = front ∨ pieces '/' directory = front ++ [""]) ∧
      pieces '/' (join directory path) = front ++ pieces '/' path := by
  have isJoined : ¬ (isAbsolute path = true ∨ directory = "") := by simp [relative, nonempty]
  rw [join, if_neg isJoined]
  by_cases ends : directory.toList.getLast? = some '/'
  · -- The slash at the end of the directory separates it from the path.
    obtain ⟨front, chars⟩ := List.getLast?_eq_some_iff.mp ends
    have split : directory = String.ofList front ++ "/" := by
      apply String.toList_injective
      simp [chars]
    refine ⟨pieces '/' (String.ofList front), pieces_ne_nil _, Or.inr ?_, ?_⟩
    · have last := pieces_append (String.ofList front) ""
      rw [String.append_empty, ← split] at last
      exact last
    · rw [if_pos ends, split, pieces_append]
  · exact ⟨pieces '/' directory, pieces_ne_nil _, Or.inl rfl,
      by rw [if_neg ends, pieces_append]⟩

/-- A path below a directory begins where that does. -/
theorem isAbsolute_join (nonempty : directory ≠ "") (relative : isAbsolute path = false) :
    isAbsolute (join directory path) = isAbsolute directory := by
  have isJoined : ¬ (isAbsolute path = true ∨ directory = "") := by simp [relative, nonempty]
  have chars : directory.toList ≠ [] := mt String.toList_eq_nil_iff.mp nonempty
  obtain ⟨c, rest, split⟩ := List.exists_cons_of_ne_nil chars
  rw [join, if_neg isJoined]
  split <;> simp [isAbsolute, split]

/-- A path below a directory is not empty. -/
theorem join_ne_empty (nonempty : directory ≠ "") : join directory path ≠ "" := by
  rw [join]
  split
  · rename_i whole
    rintro rfl
    exact whole.elim (fun absolute => by cases absolute) nonempty
  · split <;> simp [nonempty]

/-- Only pieces that stay where they are are left out at the end. -/
theorem exists_append_trimEnd (parts : List String) :
    ∃ skipped, parts = skipped ++ trimEnd parts ∧ ∀ piece ∈ skipped, piece = "" ∨ piece = "." := by
  induction parts with
  | nil => exact ⟨[], rfl, by simp⟩
  | cons part rest ih =>
    rw [trimEnd]
    split
    · exact ⟨[], rfl, by simp⟩
    · rename_i discounted
      obtain ⟨skipped, split, stay⟩ := ih
      have stays : part = "" ∨ part = "." := by
        by_contra moves
        simp [Path.counts, not_or.mp moves] at discounted
      exact ⟨part :: skipped, congrArg _ split, List.forall_mem_cons.mpr ⟨stays, stay⟩⟩

/-- The last piece that is left is not empty. -/
theorem ne_empty_of_trimEnd_eq {parts rest : List String} {last : String}
    (trimmed : trimEnd parts = last :: rest) : last ≠ "" := by
  induction parts with
  | nil => cases trimmed
  | cons part others ih =>
    rw [trimEnd] at trimmed
    split at trimmed
    · rename_i counts
      cases trimmed
      rintro rfl
      simp [Path.counts] at counts
    · exact ih trimmed

/-- The path above one that ends with a name falls into the first pieces of that, and begins where
that does. Behind them there are only pieces that stay where they are. Where nothing is left, the
path above is the root or the empty path. -/
theorem pieces_parent {above : List String} {name : String}
    (split : pieces '/' path = above ++ [name]) (isName : name ≠ "" ∧ name ≠ ".") :
    ∃ kept skipped, above = kept ++ skipped ∧ (∀ piece ∈ skipped, piece = "" ∨ piece = ".") ∧
      (kept = [] ∧ (isAbsolute path = false ∧ parent? path = some "" ∨
          isAbsolute path = true ∧ parent? path = some "/") ∨
        ∃ parent, parent? path = some parent ∧ pieces '/' parent = kept ∧
          isAbsolute parent = isAbsolute path) := by
  have counts : ∀ isFirst, Path.counts name isFirst = true := by simp [Path.counts, isName]
  have trimmed : trimEnd (pieces '/' path).reverse = name :: above.reverse := by
    rw [split, List.reverse_append, List.reverse_singleton, List.singleton_append, trimEnd,
      if_pos (counts _)]
  obtain ⟨skipped, parts, stay⟩ := exists_append_trimEnd above.reverse
  have whole : above = (trimEnd above.reverse).reverse ++ skipped.reverse := by
    rw [← List.reverse_append, ← parts, List.reverse_reverse]
  refine ⟨_, _, whole, fun piece mem => stay piece (List.mem_reverse.mp mem), ?_⟩
  rw [parent?, trimmed]
  dsimp only
  cases front : trimEnd above.reverse with
  | nil =>
    refine Or.inl ⟨rfl, ?_⟩
    cases absolute : isAbsolute path with
    | true => exact Or.inr ⟨rfl, rfl⟩
    | false => exact Or.inl ⟨rfl, rfl⟩
  | cons last rest =>
    rw [front] at whole
    have nonempty : (last :: rest).reverse ≠ [] := by simp
    have parts : pieces '/' (Text.join "/" (last :: rest).reverse) = (last :: rest).reverse := by
      refine pieces_join nonempty fun part mem => ?_
      have isPiece : part ∈ pieces '/' path := by
        rw [split, whole]
        exact List.mem_append_left _ (List.mem_append_left _ mem)
      exact slash_not_mem_of_mem_pieces isPiece
    obtain ⟨first, others, begins⟩ := List.exists_cons_of_ne_nil nonempty
    -- A lone first piece is the last one too, and that is not empty.
    have notLone : first = "" → others ≠ [] := by
      rintro rfl rfl
      have lone : last :: rest = [""] := List.reverse_injective begins
      exact ne_empty_of_trimEnd_eq front (List.cons.inj lone).1
    have whole : pieces '/' path = first :: (others ++ (skipped.reverse ++ [name])) := by
      rw [split, whole, begins]
      simp
    have goesOn : others ++ (skipped.reverse ++ [name]) ≠ [] := by simp
    exact Or.inr ⟨_, rfl, parts,
      isAbsolute_eq_of_pieces (parts.trans begins) whole notLone goesOn⟩

end TypedMvc.Files.Path
