import TypedMvc.Proofs.Merging

/-!
# What an entry holds of its parts

Merging puts the declarations of one qualified name together as one entry. `PutsTogether` says of
each field of the entry what it has of the first declaration and of the others: lists of names are
united (`Unites`), methods and files are taken over in order, and everything else is that of the
first declaration. `putsTogether_ofGroup` shows it of one group by what one more part does to each
field. Merging has neither an entry too many nor one too few, and so `mergeParts_gathers` describes
all of its result.
-/

namespace TypedMvc.Symbols

/-! ## Lists of names -/

/-- The names that are known stay in front, as they are. -/
theorem prefix_union (known more : List String) : known <+: union known more := by
  induction more generalizing known with
  | nil => exact List.prefix_rfl
  | cons name rest ih =>
    rw [union]
    split
    · exact ih known
    · exact (List.prefix_append known [name]).trans (ih (known ++ [name]))

/-- A name that is known at most once is there at most once afterwards. -/
theorem count_union_le_one {known : List String} {name : String} (once : known.count name ≤ 1)
    (more : List String) : (union known more).count name ≤ 1 := by
  induction more generalizing known with
  | nil => exact once
  | cons other rest ih =>
    rw [union]
    split
    · exact ih once
    · next new =>
      apply ih
      rw [List.count_append, List.count_singleton]
      by_cases same : other = name
      · -- The name that is added was not known at all.
        subst same
        have absent : known.count other = 0 := List.count_eq_zero.mpr new
        simp [absent]
      · simpa [same] using once

/-- A list of names has the names of all parts of a type: those of the first part as it has them,
and behind them the names that only others have, each once. -/
structure Unites (names : TypeSymbol → List String) (first : TypeSymbol)
    (others : List TypeSymbol) (united : List String) : Prop where
  /-- A name is in the list exactly if some part has it. -/
  mem_iff : ∀ name, name ∈ united ↔ ∃ part ∈ first :: others, name ∈ names part
  /-- The names of the first part come first. -/
  front : names first <+: united
  /-- No name that the first part lacks is there twice. -/
  once : ∀ name, name ∉ names first → united.count name ≤ 1

/-- Adding the names of the others to those of the first part unites them. -/
theorem unites_union (names : TypeSymbol → List String) (first : TypeSymbol)
    (others : List TypeSymbol) :
    Unites names first others (union (names first) (others.flatMap names)) where
  mem_iff name := by
    rw [mem_union, List.mem_flatMap]
    simp only [List.mem_cons, exists_eq_or_imp]
  front := prefix_union _ _
  once name lacks := by
    have absent : (names first).count name = 0 := List.count_eq_zero.mpr lacks
    exact count_union_le_one (by omega) _

/-! ## Lists of files -/

/-- Further parts add their files as far as none of the same path is there. -/
theorem files_foldl_addPart (parts : List TypeSymbol) (merged : MergedType) :
    (parts.foldl MergedType.addPart merged).files =
      List.eraseDupsBy.loop Files.Path.same (parts.map (·.file)) merged.files.reverse := by
  -- The loop keeps what it has found with the last file in front.
  induction parts generalizing merged with
  | nil => exact (List.reverse_reverse merged.files).symm
  | cons part parts ih =>
    rw [List.foldl_cons, ih, List.map_cons, List.eraseDupsBy.loop, List.any_reverse,
      MergedType.addPart]
    cases merged.files.any (Files.Path.same part.file) with
    | true => rfl
    | false => simp

/-- No two files of an entry are the same. -/
def MergedType.HasDistinctFiles (merged : MergedType) : Prop :=
  merged.files.Pairwise fun a b => Files.Path.same a b = false

/-- Whether two paths are the same does not depend on which one comes first. -/
theorem same_comm (a b : String) : Files.Path.same a b = Files.Path.same b a := Bool.beq_comm

/-- With one more part the files are still distinct. -/
theorem MergedType.HasDistinctFiles.addPart {merged : MergedType}
    (distinct : merged.HasDistinctFiles) (part : TypeSymbol) :
    (merged.addPart part).HasDistinctFiles := by
  unfold HasDistinctFiles MergedType.addPart
  dsimp only
  split
  · exact distinct
  · next new =>
    have fresh : ∀ file ∈ merged.files, Files.Path.same part.file file = false := by
      simpa using new
    refine List.pairwise_append.mpr ⟨distinct, List.pairwise_singleton _ _, ?_⟩
    intro file known other isPart
    rw [List.mem_singleton.mp isPart, same_comm]
    exact fresh file known

/-- With further parts the files are still distinct. -/
theorem MergedType.HasDistinctFiles.foldl_addPart (parts : List TypeSymbol) {merged : MergedType}
    (distinct : merged.HasDistinctFiles) :
    (parts.foldl MergedType.addPart merged).HasDistinctFiles := by
  induction parts generalizing merged with
  | nil => exact distinct
  | cons part parts ih => exact ih (distinct.addPart part)

/-! ## Entries -/

/-- An entry is put together from a first declaration and others behind it. -/
structure PutsTogether (first : TypeSymbol) (others : List TypeSymbol) (merged : MergedType) :
    Prop where
  /-- The modifiers are those of all parts. -/
  modifiers : Unites (·.modifiers) first others merged.type.modifiers
  /-- The attributes are those of all parts. -/
  attributes : Unites (·.attributes) first others merged.type.attributes
  /-- The bases are those of all parts. -/
  baseTypes : Unites (·.baseTypes) first others merged.type.baseTypes
  /-- The methods are those of the first part, then those of the second one, and so on. -/
  methods : merged.type.methods = (first :: others).flatMap (·.methods)
  /-- The files are those of the parts in order, each path as it is spelled first. -/
  files : merged.files = ((first :: others).map (·.file)).eraseDupsBy Files.Path.same
  /-- No two of the files are the same. -/
  distinctFiles : merged.HasDistinctFiles
  /-- Everything else is as the first part has it. -/
  rest : merged.type =
    { first with
      modifiers := merged.type.modifiers
      attributes := merged.type.attributes
      baseTypes := merged.type.baseTypes
      methods := merged.type.methods }

/-- A group of declarations is put together as its entry. -/
theorem putsTogether_ofGroup (first : TypeSymbol) (others : List TypeSymbol) :
    PutsTogether first others (.ofGroup (first, others)) := by
  have type := type_foldl_addPart others (.ofPart first)
  have start : (MergedType.ofPart first).HasDistinctFiles := List.pairwise_singleton _ _
  refine ⟨?_, ?_, ?_, ?_, files_foldl_addPart others (.ofPart first),
    start.foldl_addPart others, ?_⟩
  all_goals rw [MergedType.ofGroup, type]
  · exact unites_union (·.modifiers) first others
  · exact unites_union (·.attributes) first others
  · exact unites_union (·.baseTypes) first others
  · rfl
  · rfl

/-- Merging loses no declaration and counts none twice. There is one entry for each qualified name,
in the order in which the names appear first, and it is put together from the declarations of that
name in order. -/
theorem mergeParts_gathers (parts : List TypeSymbol) :
    let names := (mergeParts parts).map fun merged => merged.type.qualifiedName
    names = (parts.map TypeSymbol.qualifiedName).eraseDups ∧ names.Nodup ∧
      (∀ name, name ∈ names ↔ ∃ part ∈ parts, part.qualifiedName = name) ∧
      ∀ merged ∈ mergeParts parts, ∃ first others,
        (parts.filter fun part => part.qualifiedName = merged.type.qualifiedName) =
            first :: others ∧
          PutsTogether first others merged := by
  intro names
  have order : names = (parts.map TypeSymbol.qualifiedName).eraseDups :=
    map_qualifiedName_mergeParts parts
  refine ⟨order, List.pairwise_map.mpr (pairwise_mergeParts parts), fun name => ?_, ?_⟩
  · rw [order, List.mem_eraseDups, List.mem_map]
  · -- An entry is a group put together, and the group has all declarations of its name.
    intro merged mem
    rw [mergeParts_eq_mergeBy, mergeBy, List.mem_map] at mem
    obtain ⟨⟨first, others⟩, gathered, rfl⟩ := mem
    have named : (MergedType.ofGroup (first, others)).type.qualifiedName = first.qualifiedName :=
      (foldl_addPart_core others (.ofPart first)).2.2
    refine ⟨first, others, ?_, putsTogether_ofGroup first others⟩
    rw [named]
    exact (members_eq_withKey gathered).symm

end TypedMvc.Symbols
