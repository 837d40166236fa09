import TypedMvc.Proofs.Convention
import TypedMvc.Proofs.PartialSplit

/-!
# The controllers of a project with a declaration in two parts

Alike entries make the same controller (`Alike.controllerOf_eq`) and are candidates alike
(`Alike.isCandidate_iff`), so splitting a declaration can only matter through the search for bases
of the framework. `discover_split_iff` says exactly when it does. Moving bases to the second part
may lose controllers, but it adds none where dotted names are unambiguous. A base list on the second
part of the base class of another type is lost (`base_on_second_part_is_lost`).
-/

namespace TypedMvc.Symbols

open Controllers

/-! ## Choosing from lists that are related one by one -/

section Lists

variable {α β γ : Type} {r : α → β → Prop} {l : List α} {l' : List β}

/-- Elements that are related one by one are elements of their lists. -/
theorem forall₂_and_mem (related : List.Forall₂ r l l') :
    List.Forall₂ (fun a b => r a b ∧ a ∈ l ∧ b ∈ l') l l' := by
  rw [List.forall₂_iff_zip] at related ⊢
  exact ⟨related.1, fun mem => ⟨related.2 mem, List.of_mem_zip mem⟩⟩

/-- What holds of related elements, if something holds of the first one, holds of all of them if
that holds throughout the first list. -/
theorem forall₂_iff_forall {s : α → β → Prop} {p : α → Prop} (related : List.Forall₂ r l l')
    (iff : ∀ a b, r a b → (s a b ↔ p a)) : List.Forall₂ s l l' ↔ ∀ a ∈ l, p a := by
  induction related with
  | nil => simp
  | cons head _ ih => rw [List.forall₂_cons, List.forall_mem_cons, iff _ _ head, ih]

/-- No more elements are chosen from a list than from a related one, if each one that is chosen is
related to one that is. -/
theorem length_filter_le {p : α → Prop} {q : β → Prop} [DecidablePred p] [DecidablePred q]
    (related : List.Forall₂ (fun a b => q b → p a) l l') :
    (l'.filter fun b => q b).length ≤ (l.filter fun a => p a).length := by
  induction related with
  | nil => exact le_rfl
  | @cons a b l l' head _ ih =>
    rw [List.filter_cons, List.filter_cons]
    by_cases chosen : q b
    · simpa [chosen, head chosen] using ih
    · by_cases before : p a <;> simp [chosen, before] <;> omega

/-- Of two lists that look the same, the second with no more elements chosen than the first, the
chosen ones look the same exactly if no fewer are chosen either. -/
theorem map_filter_eq_iff {f : α → γ} {g : β → γ} {p : α → Prop} {q : β → Prop}
    [DecidablePred p] [DecidablePred q]
    (related : List.Forall₂ (fun a b => g b = f a ∧ (q b → p a)) l l') :
    (l'.filter fun b => q b).map g = (l.filter fun a => p a).map f ↔
      List.Forall₂ (fun a b => p a → q b) l l' := by
  induction related with
  | nil => simp
  | @cons a b l l' head tail ih =>
    rw [List.forall₂_cons, List.filter_cons, List.filter_cons]
    by_cases before : p a
    · by_cases after : q b
      · simp [before, after, head.1, ih]
      · -- An element is lost, and none is put in its place.
        have fewer := length_filter_le (tail.imp fun _ _ pair => pair.2)
        refine iff_of_false (fun same => ?_) fun chosen => after (chosen.1 before)
        have lengths := congrArg List.length same
        simp [before, after] at lengths
        omega
    · have after : ¬ q b := fun chosen => before (head.2 chosen)
      simp [before, after, ih]

/-- Each element of the second of two related lists is related to one of the first. -/
theorem exists_of_forall₂ (related : List.Forall₂ r l l') {b : β} (mem : b ∈ l') :
    ∃ a ∈ l, r a b := by
  induction related with
  | nil => exact absurd mem List.not_mem_nil
  | @cons a b' l l' head _ ih =>
    rcases List.mem_cons.mp mem with rfl | later
    · exact ⟨a, List.mem_cons_self, head⟩
    · obtain ⟨a', inTail, paired⟩ := ih later
      exact ⟨a', List.mem_cons_of_mem _ inTail, paired⟩

/-- Of two lists that look the same, the same elements are chosen if the chosen ones look the same
and none of the others that could be chosen looks like one of them. -/
theorem forall₂_of_map_filter_eq {f : α → γ} {g : β → γ} {c p : α → Prop} {q : β → Prop}
    [DecidablePred p] [DecidablePred q] (choice : ∀ a, p a → c a)
    (distinct : l.Pairwise fun a a' => c a → c a' → f a ≠ f a')
    (related : List.Forall₂ (fun a b => g b = f a ∧ (q b → c a)) l l')
    (same : (l'.filter fun b => q b).map g = (l.filter fun a => p a).map f) :
    List.Forall₂ (fun a b => p a ↔ q b) l l' := by
  induction related with
  | nil => exact .nil
  | @cons a b l l' head tail ih =>
    obtain ⟨apart, distinct⟩ := List.pairwise_cons.mp distinct
    rw [List.filter_cons, List.filter_cons] at same
    by_cases before : p a
    · by_cases after : q b
      · rw [if_pos (decide_eq_true after), if_pos (decide_eq_true before), List.map_cons,
          List.map_cons] at same
        exact .cons (iff_of_true before after) (ih distinct (List.cons.inj same).2)
      · -- The element is lost, so a later one that is chosen would have to look like it.
        rw [if_neg (by simpa using after), if_pos (decide_eq_true before), List.map_cons] at same
        have image : f a ∈ (l'.filter fun b => q b).map g := same ▸ List.mem_cons_self
        obtain ⟨b', chosen, looks⟩ := List.mem_map.mp image
        obtain ⟨inTail, after'⟩ := List.mem_filter.mp chosen
        obtain ⟨a', later, looks', could⟩ := exists_of_forall₂ tail inTail
        exact absurd (looks.symm.trans looks')
          (apart a' later (choice a before) (could (of_decide_eq_true after')))
    · by_cases after : q b
      · -- The element is won, so it would have to look like a later one that was chosen.
        rw [if_pos (decide_eq_true after), if_neg (by simpa using before), List.map_cons] at same
        have image : g b ∈ (l.filter fun a => p a).map f := same ▸ List.mem_cons_self
        obtain ⟨a', chosen, looks⟩ := List.mem_map.mp image
        obtain ⟨later, before'⟩ := List.mem_filter.mp chosen
        exact absurd (head.1.symm.trans looks.symm)
          (apart a' later (head.2 after) (choice a' (of_decide_eq_true before')))
      · rw [if_neg (by simpa using after), if_neg (by simpa using before)] at same
        exact .cons (iff_of_false before after) (ih distinct same)

end Lists

/-! ## Which entries are controllers -/

/-- Where no namespace is nameless, candidates that make the same controller have the same qualified
name. -/
theorem qualifiedName_of_controllerOf {suffix : String} {merged other : MergedType}
    (candidate : IsCandidate suffix merged.type) (candidate' : IsCandidate suffix other.type)
    (named : merged.type.namespaceName ≠ some "") (named' : other.type.namespaceName ≠ some "")
    (same : controllerOf suffix merged = controllerOf suffix other) :
    merged.type.qualifiedName = other.type.qualifiedName := by
  have keep : ∀ space : Option String, space ≠ some "" → space.filter (· ≠ "") = space := by
    intro space named
    cases space with
    | none => rfl
    | some text => simpa [Option.filter] using named
  have name : merged.type.name = other.type.name := congrArg Model.Controller.typeName same
  have space : merged.type.namespaceName.filter (· ≠ "") =
      other.type.namespaceName.filter (· ≠ "") := congrArg Model.Controller.namespaceName same
  rw [keep _ named, keep _ named'] at space
  rw [TypeSymbol.qualifiedName, TypeSymbol.qualifiedName, name, space, candidate.2.1,
    candidate'.2.1]

section Entries

variable {sameBases : List String → List String → Prop} {merged other : MergedType}

/-- Alike entries have the same modifiers. -/
theorem Alike.hasModifier_eq (alike : Alike sameBases merged other) (modifier : String) :
    other.type.hasModifier modifier = merged.type.hasModifier modifier := by
  rw [Bool.eq_iff_iff, TypeSymbol.hasModifier, TypeSymbol.hasModifier, List.contains_iff_mem,
    List.contains_iff_mem]
  exact alike.mem_modifiers modifier

/-- Alike entries have the same attributes. -/
theorem Alike.hasAttribute_eq (alike : Alike sameBases merged other) (name : String) :
    other.type.hasAttribute name = merged.type.hasAttribute name := by
  rw [Bool.eq_iff_iff, TypeSymbol.hasAttribute, TypeSymbol.hasAttribute, List.contains_iff_mem,
    List.contains_iff_mem]
  exact alike.mem_attributes name

/-- Alike entries make the same controller. -/
theorem Alike.controllerOf_eq (alike : Alike sameBases merged other) (suffix : String) :
    controllerOf suffix other = controllerOf suffix merged := by
  simp only [controllerOf, name_of_header alike.header, namespaceName_of_header alike.header,
    alike.methods, alike.files, alike.hasModifier_eq]

/-- Alike entries are candidates alike. -/
theorem Alike.isCandidate_iff (alike : Alike sameBases merged other) (suffix : String) :
    IsCandidate suffix other.type ↔ IsCandidate suffix merged.type := by
  have header := alike.header
  simp only [TypeSymbol.header, Prod.mk.injEq] at header
  obtain ⟨name, -, kind, container, arity, -⟩ := header
  unfold IsCandidate
  rw [name, kind, container, arity, alike.hasAttribute_eq, alike.hasModifier_eq,
    alike.hasModifier_eq, alike.hasModifier_eq]

/-- An entry is a controller by what an alike entry says of itself and by its own bases. -/
theorem Alike.classify_iff (alike : Alike sameBases merged other) {suffix : String}
    {snapshot : Snapshot} :
    classify suffix snapshot other.type = .controller ↔
      IsCandidate suffix merged.type ∧
        (merged.type.hasAttribute "Controller" = true ∨
          snapshot.inheritsFrom other.type frameworkBases = true) := by
  rw [classify_eq_controller_iff, alike.isCandidate_iff, alike.hasAttribute_eq]

/-- The search through bases gives the same answer for two entries of two projects, if it is asked
at all: that is, for a candidate that does not say that it is a controller. -/
def SameSearch (suffix : String) (joined apart : Snapshot) (merged other : MergedType) : Prop :=
  IsCandidate suffix merged.type → merged.type.hasAttribute "Controller" = false →
    apart.inheritsFrom other.type frameworkBases = joined.inheritsFrom merged.type frameworkBases

/-- Alike entries are controllers alike exactly if the search through their bases gives the same
answer. -/
theorem Alike.classify_congr_iff (alike : Alike sameBases merged other) {suffix : String}
    {joined apart : Snapshot} :
    (classify suffix joined merged.type = .controller ↔
        classify suffix apart other.type = .controller) ↔
      SameSearch suffix joined apart merged other := by
  rw [alike.classify_iff, classify_eq_controller_iff, SameSearch]
  constructor
  · intro same candidate unmarked
    rw [Bool.eq_iff_iff]
    simpa [candidate, unmarked] using same.symm
  · intro same
    refine and_congr_right fun candidate => ?_
    cases marked : merged.type.hasAttribute "Controller" with
    | true => simp
    | false => rw [same candidate marked]

end Entries

/-! ## The list of controllers -/

section Controllers

variable {whole first second : TypeSymbol} {before after : List TypeSymbol}
  {diagnostics : List Diagnostic} {suffix : String}

/-- Splitting a declaration changes nothing if every search through bases that matters gives the
same answer. -/
theorem discover_split_of_sameSearch (split : IsSplit whole first second)
    (same : List.Forall₂ (SameSearch suffix ⟨before ++ whole :: after, diagnostics⟩
        ⟨before ++ first :: second :: after, diagnostics⟩)
      (mergeParts (before ++ whole :: after)) (mergeParts (before ++ first :: second :: after))) :
    discover suffix ⟨before ++ first :: second :: after, diagnostics⟩ =
      discover suffix ⟨before ++ whole :: after, diagnostics⟩ := by
  have alike := forall₂_mergeParts (respects_mem first.baseTypes second.baseTypes) split before
    after
  rw [List.forall₂_iff_zip] at alike same
  rw [discover, discover, map_filter_eq_iff]
  · exact List.forall₂_iff_zip.mpr ⟨alike.1, fun mem =>
      ((alike.2 mem).classify_congr_iff.mpr (same.2 mem)).mp⟩
  · exact List.forall₂_iff_zip.mpr ⟨alike.1, fun mem => ⟨(alike.2 mem).controllerOf_eq suffix,
      ((alike.2 mem).classify_congr_iff.mpr (same.2 mem)).mpr⟩⟩

/-- Where no namespace is nameless, distinct candidates make distinct controllers. -/
theorem pairwise_controllerOf {parts : List TypeSymbol}
    (named : ∀ t ∈ parts, t.namespaceName ≠ some "") (suffix : String) :
    (mergeParts parts).Pairwise fun merged other =>
      IsCandidate suffix merged.type → IsCandidate suffix other.type →
        controllerOf suffix merged ≠ controllerOf suffix other := by
  have namedEntry : ∀ merged ∈ mergeParts parts, merged.type.namespaceName ≠ some "" := by
    intro merged mem
    obtain ⟨⟨part, declared, -, -, space⟩, -⟩ := mem_mergeParts mem
    rw [← space]
    exact named part declared
  refine (pairwise_mergeParts parts).imp_of_mem
    fun {merged other} mem mem' distinct candidate candidate' same => distinct ?_
  exact qualifiedName_of_controllerOf candidate candidate' (namedEntry merged mem)
    (namedEntry other mem') same

/-- Where no namespace is nameless, the controllers stay the same only if every search through bases
that matters gives the same answer. -/
theorem sameSearch_of_discover_split (split : IsSplit whole first second)
    (named : ∀ t ∈ before ++ whole :: after, t.namespaceName ≠ some "")
    (same : discover suffix ⟨before ++ first :: second :: after, diagnostics⟩ =
      discover suffix ⟨before ++ whole :: after, diagnostics⟩) :
    List.Forall₂ (SameSearch suffix ⟨before ++ whole :: after, diagnostics⟩
        ⟨before ++ first :: second :: after, diagnostics⟩)
      (mergeParts (before ++ whole :: after))
      (mergeParts (before ++ first :: second :: after)) := by
  have alike := forall₂_mergeParts (respects_mem first.baseTypes second.baseTypes) split before
    after
  have choice : ∀ merged : MergedType,
      classify suffix ⟨before ++ whole :: after, diagnostics⟩ merged.type = .controller →
        IsCandidate suffix merged.type :=
    fun merged shape => (classify_eq_controller_iff.mp shape).1
  have shapes := forall₂_of_map_filter_eq choice (pairwise_controllerOf named suffix)
    (alike.imp fun merged other alike =>
      ⟨alike.controllerOf_eq suffix, fun shape => (alike.classify_iff.mp shape).1⟩) same
  rw [List.forall₂_iff_zip] at alike shapes ⊢
  exact ⟨alike.1, fun mem => (alike.2 mem).classify_congr_iff.mp (shapes.2 mem)⟩

/-- Splitting a declaration changes nothing if the second part has no bases. -/
theorem discover_split_of_no_bases (split : IsSplit whole first second)
    (noBases : second.baseTypes = []) :
    discover suffix ⟨before ++ first :: second :: after, diagnostics⟩ =
      discover suffix ⟨before ++ whole :: after, diagnostics⟩ := by
  have respects := respects_eq first.baseTypes
  rw [← noBases] at respects
  refine discover_split_of_sameSearch split
    ((forall₂_mergeParts respects split before after).imp fun merged other alike _ _ => ?_)
  rw [Snapshot.inheritsFrom, Snapshot.inheritsFrom, reaches_split split noBases,
    Snapshot.pendingOf, Snapshot.pendingOf, alike.bases, alike.qualifiedName_eq,
    namespaceName_of_header alike.header]

/-- What an entry inherits from after the split, where dotted names are unambiguous. -/
theorem Alike.inheritsFrom_iff {merged other : MergedType} (split : IsSplit whole first second)
    (unambiguous : Snapshot.Unambiguous ⟨before ++ whole :: after, diagnostics⟩)
    (alike : Alike (fun a b => ∀ x, x ∈ a ↔ x ∈ b) merged other)
    (mem : other ∈ mergeParts (before ++ first :: second :: after)) {names : List String} :
    Snapshot.inheritsFrom ⟨before ++ first :: second :: after, diagnostics⟩ other.type names =
        true ↔
      Snapshot.Descends ⟨before ++ first :: second :: after, diagnostics⟩ merged.type names :=
  ((unambiguous_split split unambiguous).inheritsFrom_iff mem).trans
    (Snapshot.descends_congr (namespaceName_of_header alike.header) alike.bases)

/-- Splitting a declaration loses the candidates that no chain leads to the framework from any
more, and changes nothing else, where dotted names are unambiguous. -/
theorem discover_split_iff_of_unambiguous (split : IsSplit whole first second)
    (unambiguous : Snapshot.Unambiguous ⟨before ++ whole :: after, diagnostics⟩) :
    discover suffix ⟨before ++ first :: second :: after, diagnostics⟩ =
        discover suffix ⟨before ++ whole :: after, diagnostics⟩ ↔
      ∀ merged ∈ mergeParts (before ++ whole :: after), IsCandidate suffix merged.type →
        merged.type.hasAttribute "Controller" = false →
        Snapshot.Descends ⟨before ++ whole :: after, diagnostics⟩ merged.type frameworkBases →
        Snapshot.Descends ⟨before ++ first :: second :: after, diagnostics⟩ merged.type
          frameworkBases := by
  have alike := forall₂_and_mem
    (forall₂_mergeParts (respects_mem first.baseTypes second.baseTypes) split before after)
  rw [discover, discover, map_filter_eq_iff]
  -- A controller stays one if a chain of bases still leads from it to the framework.
  · refine forall₂_iff_forall alike fun merged other ⟨alike, mem, mem'⟩ => ?_
    rw [alike.classify_iff, classify_eq_controller_iff,
      alike.inheritsFrom_iff split unambiguous mem', unambiguous.inheritsFrom_iff mem]
    constructor
    · intro kept candidate unmarked chain
      obtain ⟨-, marked | chain'⟩ := kept ⟨candidate, Or.inr chain⟩
      · exact absurd (unmarked.symm.trans marked) Bool.false_ne_true
      · exact chain'
    · rintro kept ⟨candidate, marked | chain⟩
      · exact ⟨candidate, Or.inl marked⟩
      · refine ⟨candidate, ?_⟩
        cases unmarked : merged.type.hasAttribute "Controller" with
        | true => exact Or.inl rfl
        | false => exact Or.inr (kept candidate unmarked chain)
  · -- No controller is won, as a chain in the split project is one in the project.
    refine alike.imp fun merged other ⟨alike, mem, mem'⟩ =>
      ⟨alike.controllerOf_eq suffix, fun shape => ?_⟩
    rw [alike.classify_iff, alike.inheritsFrom_iff split unambiguous mem'] at shape
    rw [classify_eq_controller_iff, unambiguous.inheritsFrom_iff mem]
    exact ⟨shape.1, shape.2.imp_right (descends_of_split split)⟩

/-- The list of controllers does not depend on how a declaration is split into two parts, except
for what searches through bases find: where no namespace is nameless, it stays the same exactly if
all searches that matter give the same answers. They do if the second part has no bases. In general,
where dotted names are unambiguous, the list stays the same exactly if every candidate that a chain
of bases leads to the framework has such a chain also in the split project, where a chain cannot go
on from the bases of the second part. -/
theorem discover_split_iff (split : IsSplit whole first second) (before after : List TypeSymbol)
    (diagnostics : List Diagnostic) (suffix : String) :
    let joined : Snapshot := ⟨before ++ whole :: after, diagnostics⟩
    let apart : Snapshot := ⟨before ++ first :: second :: after, diagnostics⟩
    let same := discover suffix apart = discover suffix joined
    let agree := List.Forall₂ (SameSearch suffix joined apart) (mergeParts joined.types)
      (mergeParts apart.types)
    (agree → same) ∧
    ((∀ t ∈ joined.types, t.namespaceName ≠ some "") → (same ↔ agree)) ∧
    (second.baseTypes = [] → same) ∧
    (joined.Unambiguous →
      (same ↔
        ∀ merged ∈ mergeParts joined.types, IsCandidate suffix merged.type →
          merged.type.hasAttribute "Controller" = false →
            joined.Descends merged.type frameworkBases →
              apart.Descends merged.type frameworkBases)) :=
  ⟨discover_split_of_sameSearch split,
    fun named => ⟨sameSearch_of_discover_split split named, discover_split_of_sameSearch split⟩,
    discover_split_of_no_bases split, discover_split_iff_of_unambiguous split⟩

/-- A controller stays one if its own base list moves to a second part: the parts are put together
before the bases are looked at. -/
theorem own_bases_on_second_part :
    let home := publicClass "HomeController" ["Controller"]
    let first := publicClass "HomeController" []
    IsSplit home first home ∧ Snapshot.Unambiguous ⟨[home], []⟩ ∧
      discover "Controller" ⟨[first, home], []⟩ = discover "Controller" ⟨[home], []⟩ := by
  intro home first
  have split : IsSplit home first home :=
    ⟨rfl, rfl, by simp [home, first, publicClass], by simp [home, first, publicClass], rfl, rfl⟩
  have unambiguous : Snapshot.Unambiguous ⟨[home], []⟩ := by
    intro s hs t ht _
    rw [List.mem_singleton.mp hs, List.mem_singleton.mp ht]
    exact ⟨rfl, rfl⟩
  refine ⟨split, unambiguous, ((discover_split_iff split [] [] [] "Controller").2.2.2
    unambiguous).mpr fun merged mem _ _ _ => ?_⟩
  have isHome : merged = .ofPart home := List.mem_singleton.mp mem
  rw [isHome]
  exact Snapshot.descends_iff.mpr (Or.inl ⟨"Controller", by decide, by decide⟩)

/-- A controller is lost if the base list of its base class moves to a second part: the chain of
bases ends at the first part, which has no bases. -/
theorem base_on_second_part_is_lost :
    let app := { publicClass "AppController" ["Controller"] with
      modifiers := ["public", "abstract", "partial"] }
    let first := { app with baseTypes := [] }
    let home := publicClass "HomeController" ["AppController"]
    IsSplit app first app ∧
      discover "Controller" ⟨[app, home], []⟩ = [controllerOf "Controller" (.ofPart home)] ∧
      discover "Controller" ⟨[first, app, home], []⟩ = [] := by
  intro app first home
  have split : IsSplit app first app :=
    ⟨rfl, rfl, by simp [first], by simp [first], rfl, rfl⟩
  have unambiguous : Snapshot.Unambiguous ⟨[app, home], []⟩ := by
    intro s hs t ht same
    simp only [List.mem_cons, List.not_mem_nil, or_false] at hs ht
    rcases hs with rfl | rfl <;> rcases ht with rfl | rfl
    · exact ⟨rfl, rfl⟩
    · exact absurd same (by decide +kernel)
    · exact absurd same (by decide +kernel)
    · exact ⟨rfl, rfl⟩
  have chain : Snapshot.Descends ⟨[app, home], []⟩ home frameworkBases :=
    ⟨app, .single ⟨"AppController", List.mem_cons_self, by decide +kernel⟩, "Controller",
      List.mem_cons_self, List.mem_cons_self⟩
  have lost : ¬ Snapshot.Descends ⟨[first, app, home], []⟩ home frameworkBases := by
    rw [Snapshot.descends_iff]
    rintro (⟨name, isBase, named⟩ | ⟨base, ⟨name, isBase, resolved⟩, more⟩)
    · rw [List.mem_singleton.mp isBase] at named
      exact absurd named (by decide)
    · rw [List.mem_singleton.mp isBase] at resolved
      have isFirst : first = base := Option.some.inj
        ((show Snapshot.resolve ⟨[first, app, home], []⟩ "AppController" none = some first by
          decide +kernel).symm.trans resolved)
      rw [← isFirst, Snapshot.descends_iff] at more
      rcases more with ⟨_, isBase, _⟩ | ⟨_, ⟨_, isBase, _⟩, _⟩
      · exact absurd isBase List.not_mem_nil
      · exact absurd isBase List.not_mem_nil
  -- The base class itself is abstract, so only the other one can be a controller.
  have abstractBase : ∀ snapshot, ∀ merged : MergedType, merged.type = app →
      ¬ classify "Controller" snapshot merged.type = .controller := by
    intro snapshot merged isApp shape
    rw [isApp] at shape
    exact absurd (classify_eq_controller_iff.mp shape).1 (by decide +kernel)
  have mergedJoined : mergeParts [app, home] = [.ofPart app, .ofPart home] := by decide +kernel
  have mergedApart : mergeParts [first, app, home] =
      [(MergedType.ofPart first).addPart app, .ofPart home] := by decide +kernel
  refine ⟨split, ?_, ?_⟩
  · have shape : classify "Controller" ⟨[app, home], []⟩ (MergedType.ofPart home).type =
        .controller :=
      classify_eq_controller_iff.mpr ⟨by decide +kernel, Or.inr ((unambiguous.inheritsFrom_iff
        (by rw [mergedJoined]; exact List.mem_cons_of_mem _ List.mem_cons_self)).mpr chain)⟩
    rw [discover, mergedJoined, List.filter_cons,
      if_neg fun shape => abstractBase _ _ rfl (of_decide_eq_true shape), List.filter_cons,
      if_pos (decide_eq_true shape)]
    rfl
  · have shape : ¬ classify "Controller" ⟨[first, app, home], []⟩ (MergedType.ofPart home).type =
        .controller := by
      intro shape
      obtain ⟨-, marked | found⟩ := classify_eq_controller_iff.mp shape
      · exact absurd marked (by decide +kernel)
      · exact lost (Snapshot.descends_of_inheritsFrom found)
    rw [discover, mergedApart, List.filter_cons,
      if_neg fun shape => abstractBase _ _ rfl (of_decide_eq_true shape), List.filter_cons,
      if_neg fun found => shape (of_decide_eq_true found)]
    rfl

end Controllers

end TypedMvc.Symbols
