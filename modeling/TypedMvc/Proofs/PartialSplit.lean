import Mathlib.Data.List.Forall2
import TypedMvc.Proofs.MergedInheritance

/-!
# Declaring a type in two parts

A declaration can be split into two parts in its place (`IsSplit`). Merging puts the parts together
again, so all entries stay alike (`forall₂_mergeParts`). A name resolves to the first part only
(`resolve_split`), so a chain of bases through the declaration goes on from the bases of the first
part. Hence no chain is won (`descends_of_split`), and none is lost if the first part has all the
bases (`reaches_split`).
-/

namespace TypedMvc.Symbols

/-! ## Splitting a declaration -/

/-- What all parts of a type in one file have in common. -/
def TypeSymbol.header (type : TypeSymbol) :
    String × Option String × CSharp.TypeKind × Option String × ℕ × String :=
  (type.name, type.namespaceName, type.kind, type.containingType, type.genericArity, type.file)

/-- Two declarations are the parts of one: its modifiers and attributes are theirs, and its bases
and methods are theirs one after the other. -/
structure IsSplit (whole first second : TypeSymbol) : Prop where
  /-- The first part has the name, namespace, container, kind, arity and file. -/
  header_first : first.header = whole.header
  /-- The second part has the name, namespace, container, kind, arity and file. -/
  header_second : second.header = whole.header
  /-- The modifiers are those of both parts. -/
  mem_modifiers : ∀ x, x ∈ whole.modifiers ↔ x ∈ first.modifiers ∨ x ∈ second.modifiers
  /-- The attributes are those of both parts. -/
  mem_attributes : ∀ x, x ∈ whole.attributes ↔ x ∈ first.attributes ∨ x ∈ second.attributes
  /-- The bases are those of the first part and then those of the second one. -/
  baseTypes_eq : whole.baseTypes = first.baseTypes ++ second.baseTypes
  /-- The methods are those of the first part and then those of the second one. -/
  methods_eq : whole.methods = first.methods ++ second.methods

/-- Declarations with the same header have the same qualified name. -/
theorem qualifiedName_of_header {s t : TypeSymbol} (header : s.header = t.header) :
    s.qualifiedName = t.qualifiedName := by
  simp only [TypeSymbol.header, Prod.mk.injEq] at header
  obtain ⟨name, space, -, container, -, -⟩ := header
  rw [TypeSymbol.qualifiedName, TypeSymbol.qualifiedName, name, space, container]

/-- Declarations with the same header have the same name. -/
theorem name_of_header {s t : TypeSymbol} (header : s.header = t.header) : s.name = t.name :=
  (Prod.mk.inj header).1

/-- Declarations with the same header have the same namespace. -/
theorem namespaceName_of_header {s t : TypeSymbol} (header : s.header = t.header) :
    s.namespaceName = t.namespaceName :=
  (Prod.mk.inj (Prod.mk.inj header).2).1

/-- Declarations with the same header are in the same file. -/
theorem file_of_header {s t : TypeSymbol} (header : s.header = t.header) : s.file = t.file := by
  simp only [TypeSymbol.header, Prod.mk.injEq] at header
  exact header.2.2.2.2.2

/-! ## Entries that are alike -/

/-- Entries that differ in nothing but the order of modifiers and attributes, and in their base
lists only as far as `sameBases` allows. -/
structure Alike (sameBases : List String → List String → Prop) (merged other : MergedType) :
    Prop where
  /-- The entries have the same header. -/
  header : other.type.header = merged.type.header
  /-- The entries have the same methods. -/
  methods : other.type.methods = merged.type.methods
  /-- The entries have the same files. -/
  files : other.files = merged.files
  /-- The entries have the same modifiers in some order. -/
  mem_modifiers : ∀ x, x ∈ other.type.modifiers ↔ x ∈ merged.type.modifiers
  /-- The entries have the same attributes in some order. -/
  mem_attributes : ∀ x, x ∈ other.type.attributes ↔ x ∈ merged.type.attributes
  /-- The base lists are the same as far as it matters. -/
  bases : sameBases other.type.baseTypes merged.type.baseTypes

/-- A way to compare base lists that merging respects, and under which the base lists of two parts
can be put together in either way. -/
structure Respects (sameBases : List String → List String → Prop) (first second : List String) :
    Prop where
  /-- Every list is the same as itself. -/
  refl : ∀ bases, sameBases bases bases
  /-- Lists that are the same stay so with more bases. -/
  union : ∀ {a b} more, sameBases a b → sameBases (union a more) (union b more)
  /-- The union of the base lists of the parts is the same as one behind the other. -/
  append : sameBases (Symbols.union first second) (first ++ second)

/-- To have the same elements is respected by merging. -/
theorem respects_mem (first second : List String) :
    Respects (fun a b => ∀ x, x ∈ a ↔ x ∈ b) first second where
  refl _ _ := Iff.rfl
  union more same x := by rw [mem_union, mem_union, same]
  append x := by rw [mem_union, List.mem_append]

/-- To be equal is respected by merging, if the second part has no bases. -/
theorem respects_eq (first : List String) : Respects (· = ·) first [] where
  refl _ := rfl
  union more same := by rw [same]
  append := (List.append_nil first).symm

section Entries

variable {sameBases : List String → List String → Prop} {whole first second : TypeSymbol}

/-- Alike entries have the same qualified name. -/
theorem Alike.qualifiedName_eq {merged other : MergedType} (alike : Alike sameBases merged other) :
    other.type.qualifiedName = merged.type.qualifiedName :=
  qualifiedName_of_header alike.header

/-- An entry is like itself. -/
theorem Alike.refl (respects : Respects sameBases first.baseTypes second.baseTypes)
    (merged : MergedType) : Alike sameBases merged merged :=
  ⟨rfl, rfl, rfl, fun _ => Iff.rfl, fun _ => Iff.rfl, respects.refl _⟩

/-- Entries stay alike with one more part. -/
theorem Alike.addPart (respects : Respects sameBases first.baseTypes second.baseTypes)
    {merged other : MergedType} (alike : Alike sameBases merged other) (part : TypeSymbol) :
    Alike sameBases (merged.addPart part) (other.addPart part) where
  header := alike.header
  methods := by rw [MergedType.addPart, MergedType.addPart, alike.methods]
  files := by rw [MergedType.addPart, MergedType.addPart, alike.files]
  mem_modifiers x := by
    rw [MergedType.addPart, MergedType.addPart, mem_union, mem_union, alike.mem_modifiers]
  mem_attributes x := by
    rw [MergedType.addPart, MergedType.addPart, mem_union, mem_union, alike.mem_attributes]
  bases := respects.union _ alike.bases

/-- A path is the same as itself. -/
theorem same_self (path : String) : Files.Path.same path path = true := BEq.rfl

/-- The two parts of a declaration make an entry like the declaration does. -/
theorem alike_ofPart (respects : Respects sameBases first.baseTypes second.baseTypes)
    (split : IsSplit whole first second) :
    Alike sameBases (.ofPart whole) ((MergedType.ofPart first).addPart second) := by
  have files : ((MergedType.ofPart first).addPart second).files = [whole.file] := by
    simp [MergedType.addPart, MergedType.ofPart, same_self, file_of_header split.header_first,
      file_of_header split.header_second]
  refine ⟨split.header_first, split.methods_eq.symm, files, fun x => ?_, fun x => ?_, ?_⟩
  · exact mem_union.trans (split.mem_modifiers x).symm
  · exact mem_union.trans (split.mem_attributes x).symm
  · have bases := respects.append
    rw [← split.baseTypes_eq] at bases
    exact bases

/-- The two parts of a declaration add to an entry what the declaration does. -/
theorem alike_addPart (respects : Respects sameBases first.baseTypes second.baseTypes)
    (split : IsSplit whole first second) (merged : MergedType) :
    Alike sameBases (merged.addPart whole) ((merged.addPart first).addPart second) := by
  have files : ((merged.addPart first).addPart second).files = (merged.addPart whole).files := by
    simp only [MergedType.addPart, file_of_header split.header_first,
      file_of_header split.header_second]
    by_cases known : merged.files.any (Files.Path.same whole.file) = true
    · simp [known]
    · simp [known, same_self]
  refine ⟨rfl, ?_, files, fun x => ?_, fun x => ?_, ?_⟩
  · simp [MergedType.addPart, split.methods_eq]
  · simp [MergedType.addPart, mem_union, split.mem_modifiers, or_assoc]
  · simp [MergedType.addPart, mem_union, split.mem_attributes, or_assoc]
  · have bases := respects.refl (union merged.type.baseTypes whole.baseTypes)
    rw [split.baseTypes_eq] at bases
    nth_rewrite 1 [union_append] at bases
    simpa [MergedType.addPart, split.baseTypes_eq] using bases

/-- Inserting a part leaves entries alike. -/
theorem forall₂_insertPart (respects : Respects sameBases first.baseTypes second.baseTypes)
    {entries others : List MergedType} (alike : List.Forall₂ (Alike sameBases) entries others)
    (part : TypeSymbol) :
    List.Forall₂ (Alike sameBases) (insertPart part entries) (insertPart part others) := by
  induction alike with
  | nil => exact .cons (.refl respects _) .nil
  | @cons merged other entries others head tail ih =>
    rw [insertPart, insertPart, head.qualifiedName_eq]
    split
    · exact .cons (head.addPart respects part) tail
    · exact .cons head ih

/-- Inserting the two parts of a declaration gives entries like those with the declaration. -/
theorem forall₂_insertPart_split (respects : Respects sameBases first.baseTypes second.baseTypes)
    (split : IsSplit whole first second) (entries : List MergedType) :
    List.Forall₂ (Alike sameBases) (insertPart whole entries)
      (insertPart second (insertPart first entries)) := by
  have sameFirst := qualifiedName_of_header split.header_first
  have sameSecond := qualifiedName_of_header split.header_second
  induction entries with
  | nil =>
    rw [insertPart, insertPart, insertPart, MergedType.qualifiedName_ofPart,
      if_pos (sameFirst.trans sameSecond.symm)]
    exact .cons (alike_ofPart respects split) .nil
  | cons merged entries ih =>
    rw [insertPart, insertPart, sameFirst]
    by_cases same : merged.type.qualifiedName = whole.qualifiedName
    · -- The second part finds the entry to which the first one has just been added.
      rw [if_pos same, if_pos same, insertPart, MergedType.qualifiedName_addPart,
        if_pos (same.trans sameSecond.symm)]
      exact .cons (alike_addPart respects split merged)
        (List.forall₂_same.mpr fun _ _ => .refl respects _)
    · rw [if_neg same, if_neg same, insertPart, sameSecond, if_neg same]
      exact .cons (.refl respects _) ih

/-- Merging gives alike entries whether a declaration is split or not. -/
theorem forall₂_mergeParts (respects : Respects sameBases first.baseTypes second.baseTypes)
    (split : IsSplit whole first second) (before after : List TypeSymbol) :
    List.Forall₂ (Alike sameBases) (mergeParts (before ++ whole :: after))
      (mergeParts (before ++ first :: second :: after)) := by
  rw [mergeParts, mergeParts, List.foldl_append, List.foldl_append, List.foldl_cons,
    List.foldl_cons, List.foldl_cons]
  generalize before.foldl (fun merged part => insertPart part merged) [] = entries
  have alike := forall₂_insertPart_split respects split entries
  generalize insertPart whole entries = joined at alike ⊢
  generalize insertPart second (insertPart first entries) = apart at alike ⊢
  induction after generalizing joined apart with
  | nil => exact alike
  | cons part after ih => exact ih _ _ (forall₂_insertPart respects alike part)

end Entries

/-! ## What a name resolves to -/

section Resolving

variable {whole first second : TypeSymbol} {before after : List TypeSymbol}
  {diagnostics : List Diagnostic}

/-- Splitting a declaration in its place leaves the choice among declarations as it is, except that
the first part stands for the declaration. -/
theorem pick_split (split : IsSplit whole first second) (scope : Option String)
    (before after : List TypeSymbol) :
    Option.Rel (fun u v => v = u ∨ u = whole ∧ v = first)
      (Snapshot.pick scope (before ++ whole :: after))
      (Snapshot.pick scope (before ++ first :: second :: after)) := by
  unfold Snapshot.pick
  rw [List.find?_append, List.find?_append]
  cases inBefore : before.find? fun t => t.namespaceName == scope with
  | some u => exact .some (Or.inl rfl)
  | none =>
    rw [Option.none_or, Option.none_or, List.find?_cons, List.find?_cons, List.find?_cons,
      namespaceName_of_header split.header_first, namespaceName_of_header split.header_second]
    cases whole.namespaceName == scope with
    | true => exact .some (Or.inr ⟨rfl, rfl⟩)
    | false =>
      cases after.find? fun t => t.namespaceName == scope with
      | some u => exact .some (Or.inl rfl)
      | none =>
        -- No declaration is in the namespace, so the first one of all is taken.
        cases before with
        | nil => exact .some (Or.inr ⟨rfl, rfl⟩)
        | cons u before => exact .some (Or.inl rfl)

/-- A name resolves to the same declaration whether one is split or not, except that the first part
stands for the declaration. -/
theorem resolve_split (split : IsSplit whole first second) (before after : List TypeSymbol)
    (diagnostics : List Diagnostic) (name : String) (scope : Option String) :
    Option.Rel (fun u v => v = u ∨ u = whole ∧ v = first)
      (Snapshot.resolve ⟨before ++ whole :: after, diagnostics⟩ name scope)
      (Snapshot.resolve ⟨before ++ first :: second :: after, diagnostics⟩ name scope) := by
  rw [Snapshot.resolve_eq, Snapshot.resolve_eq, Snapshot.candidates, Snapshot.candidates,
    List.filter_append, List.filter_append, List.filter_cons, List.filter_cons,
    List.filter_cons, name_of_header split.header_first, name_of_header split.header_second]
  split
  · exact pick_split split scope _ _
  · cases Snapshot.pick scope (List.filter (fun t => t.name == name) before ++
      List.filter (fun t => t.name == name) after) with
    | none => exact .none
    | some u => exact .some (Or.inl rfl)

/-- A split project has a declaration of a header only if the project has. -/
theorem exists_header_of_mem_split (split : IsSplit whole first second) {t : TypeSymbol}
    (mem : t ∈ before ++ first :: second :: after) :
    ∃ u ∈ before ++ whole :: after, t.header = u.header := by
  have isWhole : whole ∈ before ++ whole :: after :=
    List.mem_append_right _ List.mem_cons_self
  rcases List.mem_append.mp mem with inBefore | rest
  · exact ⟨t, List.mem_append_left _ inBefore, rfl⟩
  rcases List.mem_cons.mp rest with rfl | rest
  · exact ⟨whole, isWhole, split.header_first⟩
  rcases List.mem_cons.mp rest with rfl | inAfter
  · exact ⟨whole, isWhole, split.header_second⟩
  · exact ⟨t, List.mem_append_right _ (List.mem_cons_of_mem _ inAfter), rfl⟩

/-- Dotted names stay unambiguous when a declaration is split. -/
theorem unambiguous_split (split : IsSplit whole first second)
    (unambiguous : Snapshot.Unambiguous ⟨before ++ whole :: after, diagnostics⟩) :
    Snapshot.Unambiguous ⟨before ++ first :: second :: after, diagnostics⟩ := by
  intro s hs t ht same
  obtain ⟨u, hu, headerS⟩ := exists_header_of_mem_split split hs
  obtain ⟨v, hv, headerT⟩ := exists_header_of_mem_split split ht
  rw [qualifiedName_of_header headerS, qualifiedName_of_header headerT] at same
  rw [name_of_header headerS, name_of_header headerT, namespaceName_of_header headerS,
    namespaceName_of_header headerT]
  exact unambiguous u hu v hv same

/-- Two names that resolve alike in one way do so in every way that follows from it. -/
theorem rel_imp {α β : Type} {r s : α → β → Prop} (imp : ∀ a b, r a b → s a b)
    {a : Option α} {b : Option β} (rel : Option.Rel r a b) : Option.Rel s a b := by
  cases rel with
  | none => exact .none
  | some related => exact .some (imp _ _ related)

/-- A chain of bases in the split project is one in the project, as the declaration has all the
bases of its first part. -/
theorem descends_of_split (split : IsSplit whole first second) {type : TypeSymbol}
    {names : List String}
    (descends : Snapshot.Descends ⟨before ++ first :: second :: after, diagnostics⟩ type names) :
    Snapshot.Descends ⟨before ++ whole :: after, diagnostics⟩ type names := by
  refine descends.simulate (fun name scope v resolved => ?_) rfl fun _ => id
  have rel := resolve_split split before after diagnostics name scope
  rw [resolved] at rel
  generalize Snapshot.resolve ⟨before ++ whole :: after, diagnostics⟩ name scope = found at rel ⊢
  cases rel with
  | @some u _ same =>
    refine ⟨u, rfl, ?_⟩
    rcases same with rfl | ⟨rfl, rfl⟩
    · exact ⟨rfl, fun _ => id⟩
    · refine ⟨(namespaceName_of_header split.header_first).symm, fun x isBase => ?_⟩
      rw [split.baseTypes_eq]
      exact List.mem_append_left _ isBase

/-- Where the second part has no bases, the search through bases does not see that a declaration
is split. -/
theorem reaches_split (split : IsSplit whole first second) (noBases : second.baseTypes = []) :
    Snapshot.reaches ⟨before ++ first :: second :: after, diagnostics⟩ =
      Snapshot.reaches ⟨before ++ whole :: after, diagnostics⟩ := by
  have bases : first.baseTypes = whole.baseTypes := by
    rw [split.baseTypes_eq, noBases, List.append_nil]
  funext names visited pending
  refine Snapshot.reaches_congr fun name scope => rel_imp (fun u v same => ?_)
    (resolve_split split before after diagnostics name scope)
  rcases same with rfl | ⟨rfl, rfl⟩
  · exact ⟨rfl, rfl⟩
  · refine ⟨qualifiedName_of_header split.header_first, ?_⟩
    rw [Snapshot.pendingOf, Snapshot.pendingOf, bases,
      namespaceName_of_header split.header_first]

end Resolving

end TypedMvc.Symbols
