import TypedMvc.Symbols.Partial

/-!
# Merging gathers the declarations of one qualified name

`mergeParts` takes the declarations one by one and looks for the entry of each. `gather` says what
comes out without any accumulator: the first declaration opens a group, everything with its key
joins it, and the rest is gathered in the same way. `mergeParts_eq_mergeBy` shows that an entry is
such a group put together, so every fact about entries is one about groups: who is in a group
(`mem_gather`), and what putting a group together does to the type (`type_foldl_addPart`).
-/

namespace TypedMvc.Symbols

/-! ## Groups of one key -/

section Gather

variable {α κ : Type} [DecidableEq κ]

/-- The elements of a list that have a key. -/
def withKey (key : α → κ) (k : κ) (elements : List α) : List α :=
  elements.filter fun a => key a = k

/-- The elements of a list that have another key. -/
def withoutKey (key : α → κ) (k : κ) (elements : List α) : List α :=
  elements.filter fun a => key a ≠ k

/-- An element that has the key is one of the list. -/
theorem mem_withKey {key : α → κ} {k : κ} {elements : List α} {a : α} :
    a ∈ withKey key k elements ↔ a ∈ elements ∧ key a = k := by
  rw [withKey, List.mem_filter, decide_eq_true_eq]

/-- An element that has another key is one of the list. -/
theorem mem_withoutKey {key : α → κ} {k : κ} {elements : List α} {a : α} :
    a ∈ withoutKey key k elements ↔ a ∈ elements ∧ key a ≠ k := by
  rw [withoutKey, List.mem_filter, decide_eq_true_eq]

/-- The elements that have the key, with one more in front. -/
theorem withKey_cons {key : α → κ} {k : κ} {a : α} {elements : List α} :
    withKey key k (a :: elements) =
      if key a = k then a :: withKey key k elements else withKey key k elements := by
  simp [withKey, List.filter_cons]

/-- The elements that have another key, with one more in front. -/
theorem withoutKey_cons {key : α → κ} {k : κ} {a : α} {elements : List α} :
    withoutKey key k (a :: elements) =
      if key a = k then withoutKey key k elements else a :: withoutKey key k elements := by
  simp [withoutKey, List.filter_cons]

/-- The elements of a list in groups of one key, each group with its first element apart, in the
order of the first elements. -/
def gather (key : α → κ) : List α → List (α × List α)
  | [] => []
  | a :: rest => (a, withKey key (key a) rest) :: gather key (withoutKey key (key a) rest)
termination_by elements => elements.length
decreasing_by
  rw [List.length_cons]
  exact Nat.lt_succ_of_le (List.length_filter_le _ _)

/-- The elements of a group. -/
def members (group : α × List α) : List α := group.1 :: group.2

/-- A group holds the elements of the list that have the key of its first element. -/
theorem mem_gather {key : α → κ} {elements : List α} {group : α × List α}
    (mem : group ∈ gather key elements) {a : α} :
    a ∈ members group ↔ a ∈ elements ∧ key a = key group.1 := by
  fun_induction gather key elements generalizing a with
  | case1 => simp at mem
  | case2 first rest ih =>
    rcases List.mem_cons.mp mem with rfl | later
    · rw [members, List.mem_cons, List.mem_cons, mem_withKey]
      constructor
      · rintro (rfl | ⟨inRest, same⟩)
        · exact ⟨Or.inl rfl, rfl⟩
        · exact ⟨Or.inr inRest, same⟩
      · rintro ⟨rfl | inRest, same⟩
        · exact Or.inl rfl
        · exact Or.inr ⟨inRest, same⟩
    · -- The first element of a later group has another key than the first element of all.
      have other : key group.1 ≠ key first :=
        (mem_withoutKey.mp ((ih later).mp (List.mem_cons_self : group.1 ∈ members group)).1).2
      rw [ih later, mem_withoutKey, List.mem_cons]
      constructor
      · rintro ⟨⟨inRest, -⟩, same⟩
        exact ⟨Or.inr inRest, same⟩
      · rintro ⟨rfl | inRest, same⟩
        · exact absurd same.symm other
        · exact ⟨⟨inRest, same ▸ other⟩, same⟩

/-- A group holds the elements of the list that have the key of its first element, in order. -/
theorem members_eq_withKey {key : α → κ} {elements : List α} {group : α × List α}
    (mem : group ∈ gather key elements) :
    members group = withKey key (key group.1) elements := by
  fun_induction gather key elements with
  | case1 => simp at mem
  | case2 first rest ih =>
    rcases List.mem_cons.mp mem with rfl | later
    · rw [members, withKey_cons, if_pos rfl]
    · have mem : group.1 ∈ members group := List.mem_cons_self
      have other : key group.1 ≠ key first := (mem_withoutKey.mp ((mem_gather later).mp mem).1).2
      rw [ih later, withKey_cons, if_neg (Ne.symm other), withKey, withKey, withoutKey,
        List.filter_filter]
      refine List.filter_congr fun a _ => ?_
      by_cases same : key a = key group.1 <;> simp [same, other]

/-- The groups come in the order in which their keys appear first. -/
theorem map_key_gather (key : α → κ) (elements : List α) :
    (gather key elements).map (fun group => key group.1) = (elements.map key).eraseDups := by
  fun_induction gather key elements with
  | case1 => rfl
  | case2 first rest ih =>
    rw [List.map_cons, List.map_cons, List.eraseDups_cons, ih, withoutKey, List.filter_map]
    congr 3
    refine List.filter_congr fun a _ => ?_
    by_cases same : key a = key first <;> simp [same]

/-- Every element is in a group. -/
theorem exists_mem_gather (key : α → κ) {elements : List α} {a : α} (mem : a ∈ elements) :
    ∃ group ∈ gather key elements, a ∈ members group := by
  fun_induction gather key elements with
  | case1 => simp at mem
  | case2 first rest ih =>
    rcases List.mem_cons.mp mem with rfl | inRest
    · exact ⟨_, List.mem_cons_self, List.mem_cons_self⟩
    by_cases same : key a = key first
    · exact ⟨_, List.mem_cons_self, List.mem_cons_of_mem _ (mem_withKey.mpr ⟨inRest, same⟩)⟩
    · obtain ⟨group, later, inGroup⟩ := ih (mem_withoutKey.mpr ⟨inRest, same⟩)
      exact ⟨group, List.mem_cons_of_mem _ later, inGroup⟩

/-- The groups have distinct keys. -/
theorem pairwise_gather (key : α → κ) (elements : List α) :
    (gather key elements).Pairwise fun g h => key g.1 ≠ key h.1 := by
  fun_induction gather key elements with
  | case1 => exact .nil
  | case2 first rest ih =>
    refine List.pairwise_cons.mpr ⟨fun group later => ?_, ih⟩
    have inRest := (mem_gather later).mp (List.mem_cons_self : group.1 ∈ members group)
    exact (mem_withoutKey.mp inRest.1).2.symm

/-- The groups of some keys alone are those groups among all. -/
theorem gather_filter (key : α → κ) (p : κ → Bool) (elements : List α) :
    gather key (elements.filter fun a => p (key a)) =
      (gather key elements).filter fun group => p (key group.1) := by
  fun_induction gather key elements with
  | case1 => rw [List.filter_nil, gather, List.filter_nil]
  | case2 first rest ih =>
    have left : withoutKey key (key first) (rest.filter fun a => p (key a)) =
        (withoutKey key (key first) rest).filter fun a => p (key a) := by
      rw [withoutKey, withoutKey, List.filter_filter, List.filter_filter]
      exact List.filter_congr fun a _ => Bool.and_comm _ _
    by_cases kept : p (key first) = true
    · have joined : withKey key (key first) (rest.filter fun a => p (key a)) =
          withKey key (key first) rest := by
        rw [withKey, withKey, List.filter_filter]
        refine List.filter_congr fun a _ => ?_
        by_cases same : key a = key first <;> simp [same, kept]
      rw [List.filter_cons, if_pos kept, gather, joined, left, ih, List.filter_cons, if_pos kept]
    · -- None of the elements with a key that is left out is kept.
      have dropped : (withoutKey key (key first) rest).filter (fun a => p (key a)) =
          rest.filter fun a => p (key a) := by
        rw [withoutKey, List.filter_filter]
        refine List.filter_congr fun a _ => ?_
        by_cases same : key a = key first <;> simp [same, kept]
      rw [List.filter_cons, if_neg kept, List.filter_cons, if_neg kept, ← ih, dropped]

/-- Keys that tell the elements of a list apart in the same way give the same groups. -/
theorem gather_congr {ι : Type} [DecidableEq ι] {key : α → κ} {other : α → ι} {elements : List α}
    (agree : ∀ a ∈ elements, ∀ b ∈ elements, key a = key b ↔ other a = other b) :
    gather key elements = gather other elements := by
  fun_induction gather key elements with
  | case1 => rw [gather]
  | case2 first rest ih =>
    have same : ∀ b ∈ rest, key b = key first ↔ other b = other first :=
      fun b mem => agree b (List.mem_cons_of_mem _ mem) first List.mem_cons_self
    have joined : withKey key (key first) rest = withKey other (other first) rest :=
      List.filter_congr fun b mem => decide_eq_decide.mpr (same b mem)
    have left : withoutKey key (key first) rest = withoutKey other (other first) rest :=
      List.filter_congr fun b mem => decide_eq_decide.mpr (not_congr (same b mem))
    have agreeLeft : ∀ a ∈ withoutKey key (key first) rest,
        ∀ b ∈ withoutKey key (key first) rest, key a = key b ↔ other a = other b :=
      fun a ha b hb => agree a (List.mem_cons_of_mem _ (mem_withoutKey.mp ha).1) b
        (List.mem_cons_of_mem _ (mem_withoutKey.mp hb).1)
    rw [ih agreeLeft, joined, left, ← gather]

end Gather

/-! ## Entries are groups put together -/

/-- A group of declarations put together as the parts of one type. -/
def MergedType.ofGroup (group : TypeSymbol × List TypeSymbol) : MergedType :=
  group.2.foldl MergedType.addPart (.ofPart group.1)

/-- The types of a list of declarations where those with one key are the parts of one type. -/
def mergeBy {κ : Type} [DecidableEq κ] (key : TypeSymbol → κ) (parts : List TypeSymbol) :
    List MergedType :=
  (gather key parts).map .ofGroup

/-- The first part gives the qualified name. -/
@[simp]
theorem MergedType.qualifiedName_ofPart (part : TypeSymbol) :
    (MergedType.ofPart part).type.qualifiedName = part.qualifiedName := rfl

/-- A further part does not change the qualified name. -/
@[simp]
theorem MergedType.qualifiedName_addPart (merged : MergedType) (part : TypeSymbol) :
    (merged.addPart part).type.qualifiedName = merged.type.qualifiedName := rfl

/-- The first entry takes every part with its name, and the other entries take the others. -/
theorem foldl_insertPart_cons (merged : MergedType) (rest : List MergedType)
    (parts : List TypeSymbol) :
    parts.foldl (fun entries part => insertPart part entries) (merged :: rest) =
      (withKey TypeSymbol.qualifiedName merged.type.qualifiedName parts).foldl
          MergedType.addPart merged ::
        (withoutKey TypeSymbol.qualifiedName merged.type.qualifiedName parts).foldl
          (fun entries part => insertPart part entries) rest := by
  induction parts generalizing merged rest with
  | nil => rfl
  | cons part parts ih =>
    rw [List.foldl_cons, insertPart, withKey_cons, withoutKey_cons]
    by_cases same : part.qualifiedName = merged.type.qualifiedName
    · rw [if_pos same.symm, if_pos same, if_pos same, ih, List.foldl_cons]
      rfl
    · rw [if_neg (Ne.symm same), if_neg same, if_neg same, ih, List.foldl_cons]

/-- The entries of merging are the groups of one qualified name, put together. -/
theorem mergeParts_eq_mergeBy (parts : List TypeSymbol) :
    mergeParts parts = mergeBy TypeSymbol.qualifiedName parts := by
  unfold mergeBy
  fun_induction gather TypeSymbol.qualifiedName parts with
  | case1 => rfl
  | case2 first rest ih =>
    rw [List.map_cons, ← ih, mergeParts, List.foldl_cons, insertPart, foldl_insertPart_cons]
    rfl

/-! ## What putting parts together does to a type -/

/-- The elements of both lists, and no others. -/
theorem mem_union {known more : List String} {x : String} :
    x ∈ union known more ↔ x ∈ known ∨ x ∈ more := by
  induction more generalizing known with
  | nil => simp [union]
  | cons name rest ih =>
    rw [union, ih, List.mem_cons]
    split
    · next known => grind
    · grind

/-- Adding two lists one after the other. -/
theorem union_append (known more rest : List String) :
    union known (more ++ rest) = union (union known more) rest := by
  induction more generalizing known with
  | nil => rfl
  | cons name more ih => rw [List.cons_append, union, union, ih]

/-- Further parts add their modifiers, attributes and bases as far as the type lacks them, and all
their methods. What else is known of the type stays as the first part has it. -/
theorem type_foldl_addPart (parts : List TypeSymbol) (merged : MergedType) :
    (parts.foldl MergedType.addPart merged).type =
      { merged.type with
        modifiers := union merged.type.modifiers (parts.flatMap (·.modifiers))
        attributes := union merged.type.attributes (parts.flatMap (·.attributes))
        baseTypes := union merged.type.baseTypes (parts.flatMap (·.baseTypes))
        methods := merged.type.methods ++ parts.flatMap (·.methods) } := by
  induction parts generalizing merged with
  | nil => simp only [List.foldl_nil, List.flatMap_nil, List.append_nil, union]
  | cons part parts ih =>
    rw [List.foldl_cons, ih]
    simp only [MergedType.addPart, List.flatMap_cons, union_append, List.append_assoc]

/-- Further parts leave what identifies the type as the first part has it. -/
theorem foldl_addPart_core (parts : List TypeSymbol) (merged : MergedType) :
    (parts.foldl MergedType.addPart merged).type.name = merged.type.name ∧
      (parts.foldl MergedType.addPart merged).type.namespaceName = merged.type.namespaceName ∧
      (parts.foldl MergedType.addPart merged).type.qualifiedName =
        merged.type.qualifiedName := by
  rw [type_foldl_addPart]
  exact ⟨rfl, rfl, rfl⟩

/-- The methods of a type are those of its parts, one part after the other. -/
theorem methods_foldl_addPart (parts : List TypeSymbol) (merged : MergedType) :
    (parts.foldl MergedType.addPart merged).type.methods =
      merged.type.methods ++ parts.flatMap (·.methods) := by
  rw [type_foldl_addPart]

/-- The bases of a type are those of all its parts. -/
theorem mem_baseTypes_foldl_addPart {parts : List TypeSymbol} {merged : MergedType} {x : String} :
    x ∈ (parts.foldl MergedType.addPart merged).type.baseTypes ↔
      x ∈ merged.type.baseTypes ∨ ∃ part ∈ parts, x ∈ part.baseTypes := by
  rw [type_foldl_addPart, mem_union, List.mem_flatMap]

/-- The entries have distinct qualified names. -/
theorem pairwise_mergeParts (parts : List TypeSymbol) :
    (mergeParts parts).Pairwise fun merged other =>
      merged.type.qualifiedName ≠ other.type.qualifiedName := by
  have named : ∀ group : TypeSymbol × List TypeSymbol,
      (MergedType.ofGroup group).type.qualifiedName = group.1.qualifiedName :=
    fun group => (foldl_addPart_core group.2 (.ofPart group.1)).2.2
  rw [mergeParts_eq_mergeBy, mergeBy, List.pairwise_map]
  simp only [named]
  exact pairwise_gather _ _

/-- The entries come in the order in which their qualified names are declared first. -/
theorem map_qualifiedName_mergeParts (parts : List TypeSymbol) :
    (mergeParts parts).map (fun merged => merged.type.qualifiedName) =
      (parts.map TypeSymbol.qualifiedName).eraseDups := by
  rw [mergeParts_eq_mergeBy, mergeBy, List.map_map, ← map_key_gather]
  exact List.map_congr_left fun group _ => (foldl_addPart_core group.2 (.ofPart group.1)).2.2

/-- The methods of an entry are those of the declarations of its qualified name, in order. -/
theorem methods_of_mem_mergeParts {parts : List TypeSymbol} {merged : MergedType}
    (mem : merged ∈ mergeParts parts) :
    merged.type.methods =
      (withKey TypeSymbol.qualifiedName merged.type.qualifiedName parts).flatMap (·.methods) := by
  rw [mergeParts_eq_mergeBy, mergeBy, List.mem_map] at mem
  obtain ⟨group, gathered, rfl⟩ := mem
  rw [MergedType.ofGroup, methods_foldl_addPart, (foldl_addPart_core _ _).2.2]
  exact congrArg (List.flatMap (·.methods)) (members_eq_withKey gathered)

/-- An entry has the name and the namespace of one of the declarations, and the bases of all
declarations of its qualified name. -/
theorem mem_mergeParts {parts : List TypeSymbol} {merged : MergedType}
    (mem : merged ∈ mergeParts parts) :
    (∃ part ∈ parts, part.qualifiedName = merged.type.qualifiedName ∧
        part.name = merged.type.name ∧ part.namespaceName = merged.type.namespaceName) ∧
      ∀ x, x ∈ merged.type.baseTypes ↔
        ∃ part ∈ parts, part.qualifiedName = merged.type.qualifiedName ∧ x ∈ part.baseTypes := by
  rw [mergeParts_eq_mergeBy, mergeBy, List.mem_map] at mem
  obtain ⟨group, gathered, rfl⟩ := mem
  have first := (mem_gather gathered).mp (List.mem_cons_self : group.1 ∈ members group)
  obtain ⟨name, namespaceName, qualifiedName⟩ := foldl_addPart_core group.2 (.ofPart group.1)
  refine ⟨⟨group.1, first.1, qualifiedName.symm, name.symm, namespaceName.symm⟩, fun x => ?_⟩
  have inGroup : ∀ part, part ∈ members group ↔
      part ∈ parts ∧ part.qualifiedName = (MergedType.ofGroup group).type.qualifiedName := by
    intro part
    rw [mem_gather gathered, MergedType.ofGroup, qualifiedName]
    rfl
  rw [MergedType.ofGroup, mem_baseTypes_foldl_addPart, ← MergedType.ofGroup]
  constructor
  · rintro (own | ⟨part, mem, own⟩)
    · exact ⟨group.1, first.1, qualifiedName.symm, own⟩
    · obtain ⟨declared, same⟩ := (inGroup part).mp (List.mem_cons_of_mem _ mem)
      exact ⟨part, declared, same, own⟩
  · rintro ⟨part, declared, same, own⟩
    rcases List.mem_cons.mp ((inGroup part).mpr ⟨declared, same⟩) with rfl | mem
    · exact Or.inl own
    · exact Or.inr ⟨part, mem, own⟩

end TypedMvc.Symbols
