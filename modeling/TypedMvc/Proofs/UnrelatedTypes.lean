import Mathlib.Data.List.Flatten
import TypedMvc.Proofs.FoundControllers
import TypedMvc.Proofs.Inheritance

/-!
# Types that have nothing to do with each other

The declarations of a part of a project stand apart in the whole (`StandsApart`) if no other
declaration has a qualified name of one of them or is called like a base of one of them. Then the
others make no difference to them: the entries of their qualified names are put together from the
same declarations (`StandsApart.mergeParts_eq`), their bases resolve to the same declarations
(`StandsApart.resolve_eq`), so the search through bases takes the same steps in the part and in the
whole (`StandsApart.inheritsFrom_eq`). `discover_unrelated` puts this together: the controllers
found in the whole for the types of the part are those found in the part alone.
-/

namespace TypedMvc.Symbols

/-- The declarations of a part stand apart in a whole, which holds them in their order with the
other declarations put in anywhere. -/
structure StandsApart (part others whole : List TypeSymbol) : Prop where
  /-- The whole holds the part in its order. -/
  kept : part.Sublist whole
  /-- The whole holds the part and the others, and nothing else. -/
  split : (part ++ others).Perm whole
  /-- None of the others is a part of a type declared in the part. -/
  names : ∀ other ∈ others, ∀ own ∈ part, other.qualifiedName ≠ own.qualifiedName
  /-- None of the others is called like a base of a declaration in the part. -/
  bases : ∀ other ∈ others, ∀ own ∈ part, other.name ∉ own.baseTypes

/-- Whether a qualified name is one of those declared. -/
def declares (parts : List TypeSymbol) (name : String) : Bool :=
  (parts.map TypeSymbol.qualifiedName).contains name

/-- A qualified name is declared if a declaration has it. -/
theorem declares_iff {parts : List TypeSymbol} {name : String} :
    declares parts name = true ↔ ∃ own ∈ parts, own.qualifiedName = name := by
  rw [declares, List.contains_iff_mem, List.mem_map]

namespace StandsApart

variable {part others whole : List TypeSymbol}

/-- The part is what the whole declares under the qualified names of the part. -/
theorem filter_eq (apart : StandsApart part others whole) :
    whole.filter (fun type => declares part type.qualifiedName) = part := by
  have own : part.filter (fun type => declares part type.qualifiedName) = part :=
    List.filter_eq_self.mpr fun type mem => declares_iff.mpr ⟨type, mem, rfl⟩
  have none : others.filter (fun type => declares part type.qualifiedName) = [] := by
    refine List.filter_eq_nil_iff.mpr fun other mem declared => ?_
    obtain ⟨type, isOwn, same⟩ := declares_iff.mp declared
    exact apart.names other mem type isOwn same.symm
  have rearranged := apart.split.filter fun type => declares part type.qualifiedName
  rw [List.filter_append, own, none, List.append_nil] at rearranged
  have inside := apart.kept.filter fun type => declares part type.qualifiedName
  rw [own] at inside
  exact (inside.eq_of_length rearranged.length_eq).symm

/-- The entries for the qualified names of the part are the same in the whole. -/
theorem mergeParts_eq (apart : StandsApart part others whole) :
    (mergeParts whole).filter (fun merged => declares part merged.type.qualifiedName) =
      mergeParts part := by
  have named : ∀ group : TypeSymbol × List TypeSymbol,
      (MergedType.ofGroup group).type.qualifiedName = group.1.qualifiedName :=
    fun group => (foldl_addPart_core group.2 (.ofPart group.1)).2.2
  rw [mergeParts_eq_mergeBy, mergeParts_eq_mergeBy, mergeBy, mergeBy, List.filter_map]
  simp only [Function.comp_def, named]
  rw [← gather_filter TypeSymbol.qualifiedName (declares part), apart.filter_eq]

/-- A base of the part resolves to the same declaration in the whole. -/
theorem resolve_eq {part whole : Snapshot} (apart : StandsApart part.types others whole.types)
    {name : String} (isBase : ∃ own ∈ part.types, name ∈ own.baseTypes) (scope : Option String) :
    whole.resolve name scope = part.resolve name scope := by
  have candidates : whole.types.filter (fun type => type.name == name) =
      part.types.filter fun type => type.name == name := by
    conv_rhs => rw [← apart.filter_eq, List.filter_filter]
    refine List.filter_congr fun type mem => ?_
    rcases List.mem_append.mp (apart.split.mem_iff.mpr mem) with own | other
    · rw [declares_iff.mpr ⟨type, own, rfl⟩, Bool.and_true]
    · -- The others are not called like a base.
      obtain ⟨own, isOwn, among⟩ := isBase
      have unlike : type.name ≠ name := fun same => apart.bases type other own isOwn (same ▸ among)
      rw [beq_eq_false_iff_ne.mpr unlike, Bool.false_and]
  rw [Snapshot.resolve, Snapshot.resolve, candidates]

/-- An entry of the part inherits from the same names in the whole. -/
theorem inheritsFrom_eq {part whole : Snapshot}
    (apart : StandsApart part.types others whole.types) {merged : MergedType}
    (mem : merged ∈ mergeParts part.types) (names : List String) :
    whole.inheritsFrom merged.type names = part.inheritsFrom merged.type names := by
  refine Snapshot.reaches_congr_on (fun name => ∃ own ∈ part.types, name ∈ own.baseTypes)
    (fun name scope isBase => ?_) (fun type mem base isBase => ⟨type, mem, isBase⟩)
    fun base scope pending => ?_
  · rw [apart.resolve_eq isBase]
    cases part.resolve name scope with
    | none => exact .none
    | some type => exact .some ⟨rfl, rfl⟩
  · have isBase := (Snapshot.mem_pendingOf.mp (List.mem_reverse.mp pending)).1
    obtain ⟨own, isOwn, -, among⟩ := ((mem_mergeParts mem).2 base).mp isBase
    exact ⟨own, isOwn, among⟩

/-- Files with other declarations leave those of a project apart. -/
theorem ofFiles (parser : CSharp.Parser) {kept more files : List SourceFile}
    (sublist : kept.Sublist files) (perm : (kept ++ more).Perm files)
    (names : ∀ other ∈ (Snapshot.ofFiles more parser).types,
      ∀ own ∈ (Snapshot.ofFiles kept parser).types, other.qualifiedName ≠ own.qualifiedName)
    (bases : ∀ other ∈ (Snapshot.ofFiles more parser).types,
      ∀ own ∈ (Snapshot.ofFiles kept parser).types, other.name ∉ own.baseTypes) :
    StandsApart (Snapshot.ofFiles kept parser).types (Snapshot.ofFiles more parser).types
      (Snapshot.ofFiles files parser).types where
  kept := (sublist.map _).flatMap _
  split := by
    simp only [Snapshot.ofFiles]
    rw [← List.flatMap_append, ← List.map_append]
    exact (perm.map _).flatMap_right _
  names := names
  bases := bases

end StandsApart

end TypedMvc.Symbols

namespace TypedMvc.Controllers

open Model Symbols

variable {others : List TypeSymbol} {part whole : Snapshot}

/-- The controllers found in a whole for the types that are declared in a part. -/
def foundFor (suffix : String) (whole : Snapshot) (parts : List TypeSymbol) : List Controller :=
  ((controllerTypes suffix whole).filter fun merged =>
    declares parts merged.type.qualifiedName).map (controllerOf suffix)

/-- They are some of the controllers found in the whole, in their order. -/
theorem foundFor_sublist (suffix : String) (whole : Snapshot) (parts : List TypeSymbol) :
    (foundFor suffix whole parts).Sublist (discover suffix whole) := by
  rw [discover_eq]
  exact List.filter_sublist.map _

/-- The controllers found in the whole for the types of a part that stands apart are those found in
the part alone. -/
theorem foundFor_eq_of_standsApart (apart : StandsApart part.types others whole.types)
    (suffix : String) : foundFor suffix whole part.types = discover suffix part := by
  have same : ∀ merged ∈ mergeParts part.types,
      (IsControllerType suffix whole merged.type ↔ IsControllerType suffix part merged.type) := by
    intro merged mem
    rw [← classify_eq_controller_iff_isControllerType,
      ← classify_eq_controller_iff_isControllerType,
      classify_eq_controller_iff, classify_eq_controller_iff, apart.inheritsFrom_eq mem]
  rw [foundFor, controllerTypes, List.filter_comm, apart.mergeParts_eq, discover_eq,
    controllerTypes]
  exact congrArg _ (List.filter_congr fun merged mem => decide_eq_decide.mpr (same merged mem))

/-- Unrelated declarations do not interfere. If the declarations of a part stand apart in a whole,
the controllers found in the whole for the types of the part are, in their order and field by field,
those found in the part alone. So further files in which a parser finds unrelated types, wherever
they stand among the files of a project, neither add nor remove nor change a controller of the
project. -/
theorem discover_unrelated (suffix : String) :
    (∀ (part whole : Snapshot) (others : List TypeSymbol),
      StandsApart part.types others whole.types →
        foundFor suffix whole part.types = discover suffix part ∧
          (foundFor suffix whole part.types).Sublist (discover suffix whole)) ∧
    ∀ (parser : CSharp.Parser) (kept more files : List SourceFile), kept.Sublist files →
      (kept ++ more).Perm files →
      (∀ other ∈ (Snapshot.ofFiles more parser).types,
        ∀ own ∈ (Snapshot.ofFiles kept parser).types,
          other.qualifiedName ≠ own.qualifiedName ∧ other.name ∉ own.baseTypes) →
      foundFor suffix (.ofFiles files parser) (Snapshot.ofFiles kept parser).types =
          discover suffix (.ofFiles kept parser) ∧
        (discover suffix (.ofFiles kept parser)).Sublist
          (discover suffix (.ofFiles files parser)) := by
  refine ⟨fun part whole others apart =>
    ⟨foundFor_eq_of_standsApart apart suffix, foundFor_sublist suffix whole part.types⟩, ?_⟩
  intro parser kept more files sublist perm unrelated
  have found := foundFor_eq_of_standsApart (StandsApart.ofFiles parser sublist perm
    (fun other mem own isOwn => (unrelated other mem own isOwn).1)
    fun other mem own isOwn => (unrelated other mem own isOwn).2) suffix
  exact ⟨found, found ▸ foundFor_sublist suffix _ _⟩

/-- A controller and its abstract base class, with a helper in front of them and another controller
between them: the controller is found in the whole as in the part. -/
theorem discover_unrelated_between :
    let home := publicClass "HomeController" ["AppController"]
    let app := { publicClass "AppController" ["Controller"] with
      modifiers := ["public", "abstract"] }
    let others := [publicClass "Helper" [], publicClass "BlogController" ["ControllerBase"]]
    let part : Snapshot := ⟨[home, app], []⟩
    let whole : Snapshot := ⟨[others[0], home, others[1], app], []⟩
    StandsApart part.types others whole.types ∧
      foundFor "Controller" whole part.types = discover "Controller" part ∧
      discover "Controller" part = [controllerOf "Controller" (.ofPart home)] := by
  intro home app others part whole
  have apart : StandsApart part.types others whole.types :=
    ⟨by decide, by decide, by decide, by decide⟩
  refine ⟨apart, ((discover_unrelated "Controller").1 part whole others apart).1, ?_⟩
  have unvisited : ¬ [home.qualifiedName].contains app.qualifiedName = true := by decide +kernel
  have found : part.inheritsFrom home frameworkBases = true :=
    (Snapshot.reaches_of_fresh (by decide) (by decide +kernel) unvisited).trans
      (Snapshot.reaches_of_mem List.mem_cons_self (by decide))
  have isController : classify "Controller" part (MergedType.ofPart home).type = .controller :=
    classify_eq_controller_iff.mpr ⟨by decide +kernel, Or.inr found⟩
  have isAbstract : ¬ classify "Controller" part (MergedType.ofPart app).type = .controller :=
    fun shape => absurd (classify_eq_controller_iff.mp shape).1 (by decide +kernel)
  have merged : mergeParts part.types = [.ofPart home, .ofPart app] := by decide +kernel
  rw [discover, merged, List.filter_cons, if_pos (decide_eq_true isController), List.filter_cons,
    if_neg (by rwa [decide_eq_true_eq])]
  rfl

end TypedMvc.Controllers
