import Mathlib.Data.List.Basic
import TypedMvc.Proofs.Convention
import TypedMvc.Proofs.Inheritance
import TypedMvc.Proofs.Merging

/-!
# When a dotted name stands for one type

A type is identified by its namespace, the type it is nested in, its name and the number of its
type parameters (`TypeSymbol.identity`). Merging goes by the dotted name instead, which leaves out
the last of these and does not say where the namespace ends. `Snapshot.KeepsTypesApart` says that
no harm comes of it: no entry has declarations of two types, and the controllers are those that
merging by identity would give. `keepsTypesApart_iff` shows that this holds exactly if no two
declarations of different types have the same dotted name, and, where names have no dots in them,
exactly if no two declarations are confusable in one of two ways (`Confusable`). A class and a
generic class of the same name are (`generic_twin_hides_controller`).
-/

namespace TypedMvc.Symbols

open Controllers

/-! ## Dotted names -/

/-- What is in front of the last dot, and what is behind it. -/
theorem eq_and_eq_of_lastDot {a b x y : List Char} (noDot : '.' ∉ x) (noDot' : '.' ∉ y)
    (h : a ++ '.' :: x = b ++ '.' :: y) : a = b ∧ x = y := by
  have aux : ∀ {c l r : List Char}, '.' ∉ l → '.' :: l = c ++ '.' :: r → c = [] ∧ l = r := by
    intro c l r clean eq
    cases c with
    | nil => exact ⟨rfl, (List.cons.inj eq).2⟩
    | cons d c =>
      rw [(List.cons.inj eq).2] at clean
      exact absurd (List.mem_append_right c List.mem_cons_self) clean
  rcases List.append_eq_append_iff.mp h with ⟨c, rfl, eq⟩ | ⟨c, rfl, eq⟩
  · obtain ⟨rfl, same⟩ := aux noDot eq
    exact ⟨(List.append_nil a).symm, same⟩
  · obtain ⟨rfl, same⟩ := aux noDot' eq
    exact ⟨List.append_nil b, same.symm⟩

/-- Texts with dots between them, one more in front. -/
theorem join_cons_cons (first second : String) (rest : List String) :
    Text.join "." (first :: second :: rest) =
      first ++ "." ++ Text.join "." (second :: rest) := rfl

/-- Texts with dots between them, one more behind. -/
theorem join_concat (texts : List String) (last : String) :
    Text.join "." (texts ++ [last]) =
      if texts = [] then last else Text.join "." texts ++ "." ++ last := by
  induction texts with
  | nil => rfl
  | cons first rest ih =>
    cases rest with
    | nil => rfl
    | cons second rest =>
      rw [if_neg (List.cons_ne_nil _ _)] at ih ⊢
      rw [List.cons_append, List.cons_append, join_cons_cons, ← List.cons_append, ih,
        join_cons_cons]
      simp only [String.append_assoc]

/-- Texts with dots between them determine the last one and what is in front of it, if the last one
has no dot. -/
theorem join_concat_inj {a b : List String} {x y : String} (noDot : '.' ∉ x.toList)
    (noDot' : '.' ∉ y.toList) :
    Text.join "." (a ++ [x]) = Text.join "." (b ++ [y]) ↔
      x = y ∧ (a = [] ↔ b = []) ∧ Text.join "." a = Text.join "." b := by
  have hasDot : ∀ l r : String, '.' ∈ (l ++ "." ++ r).toList := by
    intro l r
    rw [String.toList_append, String.toList_append]
    exact List.mem_append_left _ (List.mem_append_right _ List.mem_cons_self)
  rw [join_concat, join_concat]
  by_cases emptyA : a = [] <;> by_cases emptyB : b = []
  · simp [emptyA, emptyB]
  · rw [if_pos emptyA, if_neg emptyB]
    refine ⟨fun h => absurd (h ▸ hasDot _ _) noDot, fun h => absurd (h.2.1.mp emptyA) emptyB⟩
  · rw [if_neg emptyA, if_pos emptyB]
    refine ⟨fun h => absurd (h ▸ hasDot _ _) noDot', fun h => absurd (h.2.1.mpr emptyB) emptyA⟩
  · rw [if_neg emptyA, if_neg emptyB]
    constructor
    · intro h
      have chars := congrArg String.toList h
      simp only [String.toList_append, List.append_assoc] at chars
      obtain ⟨front, last⟩ := eq_and_eq_of_lastDot noDot noDot' chars
      exact ⟨String.toList_injective last, by simp [emptyA, emptyB], String.toList_injective front⟩
    · rintro ⟨rfl, -, front⟩
      rw [front]

/-! ## The identity of a type -/

namespace TypeSymbol

/-- What two declarations have to agree on to declare the same type. -/
def identity (type : TypeSymbol) : Option String × Option String × String × Nat :=
  (type.namespaceName, type.containingType, type.name, type.genericArity)

/-- The names in front of the type's own in its qualified name. -/
def outer (type : TypeSymbol) : List String :=
  type.namespaceName.toList ++ type.containingType.toList

/-- The name of the type has no dot, nor has that of the type it is nested in. -/
def HasPlainNames (type : TypeSymbol) : Prop :=
  '.' ∉ type.name.toList ∧ ∀ container ∈ type.containingType, '.' ∉ container.toList

end TypeSymbol

/-- Two declarations of different types with the same dotted name. -/
inductive Confusable (s t : TypeSymbol) : Prop where
  /-- They differ only in the number of type parameters. -/
  | arity (sameName : s.name = t.name) (sameNamespace : s.namespaceName = t.namespaceName)
      (sameContainer : s.containingType = t.containingType)
      (other : s.genericArity ≠ t.genericArity)
  /-- One is nested in a type and the other is in a namespace that is spelled like this type. -/
  | nested (container : String) (sameName : s.name = t.name)
      (inside : s.containingType = some container) (outside : t.containingType = none)
      (spelled : t.namespaceName =
        some (Text.join "." (s.namespaceName.toList ++ [container])))

/-- Plain names are the same and stand behind the same names if the dotted names are the same. -/
theorem qualifiedName_eq_iff {s t : TypeSymbol} (plain : s.HasPlainNames)
    (plain' : t.HasPlainNames) :
    s.qualifiedName = t.qualifiedName ↔
      s.name = t.name ∧ (s.outer = [] ↔ t.outer = []) ∧
        Text.join "." s.outer = Text.join "." t.outer :=
  join_concat_inj plain.1 plain'.1

/-- Types that are nested in none have the same dotted name if name and namespace are the same. -/
theorem qualifiedName_eq_iff_of_topLevel {s t : TypeSymbol} (plain : s.HasPlainNames)
    (plain' : t.HasPlainNames) (inside : s.containingType = none)
    (inside' : t.containingType = none) :
    s.qualifiedName = t.qualifiedName ↔ s.name = t.name ∧ s.namespaceName = t.namespaceName := by
  rw [qualifiedName_eq_iff plain plain', TypeSymbol.outer, TypeSymbol.outer, inside, inside']
  cases s.namespaceName <;> cases t.namespaceName <;> simp [Text.join]

/-- Nested types have the same dotted name if name, namespace and container are the same. -/
theorem qualifiedName_eq_iff_of_nested {s t : TypeSymbol} (plain : s.HasPlainNames)
    (plain' : t.HasPlainNames) {c d : String} (inside : s.containingType = some c)
    (inside' : t.containingType = some d) :
    s.qualifiedName = t.qualifiedName ↔
      s.name = t.name ∧ s.namespaceName = t.namespaceName ∧ c = d := by
  rw [qualifiedName_eq_iff plain plain', TypeSymbol.outer, TypeSymbol.outer, inside, inside',
    Option.toList_some, Option.toList_some,
    join_concat_inj (plain.2 c inside) (plain'.2 d inside')]
  cases s.namespaceName <;> cases t.namespaceName <;> simp [Text.join, and_comm]

/-- A nested type has the dotted name of one that is not if that one's namespace is spelled like
the type it is nested in. -/
theorem qualifiedName_eq_iff_of_spelled {s t : TypeSymbol} (plain : s.HasPlainNames)
    (plain' : t.HasPlainNames) {c : String} (inside : s.containingType = some c)
    (outside : t.containingType = none) :
    s.qualifiedName = t.qualifiedName ↔
      s.name = t.name ∧
        t.namespaceName = some (Text.join "." (s.namespaceName.toList ++ [c])) := by
  rw [qualifiedName_eq_iff plain plain', TypeSymbol.outer, TypeSymbol.outer, inside, outside,
    Option.toList_some]
  cases t.namespaceName with
  | none => simp
  | some space =>
    rw [Option.toList_some, Option.toList_none, List.append_nil, Option.some.injEq,
      show Text.join "." [space] = space from rfl, eq_comm (b := space)]
    simp

/-- Confusable declarations have the same dotted name without being of the same type. -/
theorem Confusable.sound {s t : TypeSymbol} (plain : s.HasPlainNames) (plain' : t.HasPlainNames)
    (confusable : Confusable s t) :
    s.qualifiedName = t.qualifiedName ∧ s.identity ≠ t.identity := by
  cases confusable with
  | arity name space container other =>
    refine ⟨by rw [TypeSymbol.qualifiedName, TypeSymbol.qualifiedName, name, space, container],
      fun same => other ?_⟩
    simp only [TypeSymbol.identity, Prod.mk.injEq] at same
    exact same.2.2.2
  | nested c name inside outside spelled =>
    refine ⟨(qualifiedName_eq_iff_of_spelled plain plain' inside outside).mpr ⟨name, spelled⟩,
      fun same => ?_⟩
    simp only [TypeSymbol.identity, Prod.mk.injEq, inside, outside] at same
    exact absurd same.2.1 (Option.some_ne_none c)

/-- Declarations that agree on all but the number of type parameters are of the same type or
confusable. -/
theorem identity_eq_or_confusable {s t : TypeSymbol} (name : s.name = t.name)
    (space : s.namespaceName = t.namespaceName) (container : s.containingType = t.containingType) :
    s.identity = t.identity ∨ Confusable s t := by
  by_cases arity : s.genericArity = t.genericArity
  · left
    rw [TypeSymbol.identity, TypeSymbol.identity, name, space, container, arity]
  · exact Or.inr (.arity name space container arity)

/-- Declarations with plain names and the same dotted name are of the same type or confusable. -/
theorem identity_eq_or_confusable_of_qualifiedName_eq {s t : TypeSymbol} (plain : s.HasPlainNames)
    (plain' : t.HasPlainNames) (same : s.qualifiedName = t.qualifiedName) :
    s.identity = t.identity ∨ Confusable s t ∨ Confusable t s := by
  cases inside : s.containingType with
  | none =>
    cases inside' : t.containingType with
    | none =>
      obtain ⟨name, space⟩ :=
        (qualifiedName_eq_iff_of_topLevel plain plain' inside inside').mp same
      exact (identity_eq_or_confusable name space (inside.trans inside'.symm)).imp_right Or.inl
    | some d =>
      obtain ⟨name, spelled⟩ :=
        (qualifiedName_eq_iff_of_spelled plain' plain inside' inside).mp same.symm
      exact Or.inr (Or.inr (.nested d name inside' inside spelled))
  | some c =>
    cases inside' : t.containingType with
    | none =>
      obtain ⟨name, spelled⟩ :=
        (qualifiedName_eq_iff_of_spelled plain plain' inside inside').mp same
      exact Or.inr (Or.inl (.nested c name inside inside' spelled))
    | some d =>
      obtain ⟨name, space, rfl⟩ :=
        (qualifiedName_eq_iff_of_nested plain plain' inside inside').mp same
      exact (identity_eq_or_confusable name space (inside.trans inside'.symm)).imp_right Or.inl

/-! ## Merging by dotted names and by identity -/

namespace Snapshot

/-- Every dotted name of the snapshot stands for one type. -/
def NamesIdentify (snapshot : Snapshot) : Prop :=
  ∀ s ∈ snapshot.types, ∀ t ∈ snapshot.types,
    s.qualifiedName = t.qualifiedName → s.identity = t.identity

/-- Distinct types are kept apart: the declarations of an entry are of one type, and the controllers
are those that come out if the declarations of each type are merged and no others. -/
structure KeepsTypesApart (snapshot : Snapshot) : Prop where
  /-- Two declarations in one entry declare the same type. -/
  identity_eq : ∀ group ∈ gather TypeSymbol.qualifiedName snapshot.types,
    ∀ s ∈ members group, ∀ t ∈ members group, s.identity = t.identity
  /-- No controller is lost, and none has anything from a declaration of another type. -/
  discover_eq : ∀ suffix, discover suffix snapshot =
    ((mergeBy TypeSymbol.identity snapshot.types).filter fun merged =>
      classify suffix snapshot merged.type = .controller).map (controllerOf suffix)

/-- Distinct types are kept apart exactly if every dotted name stands for one type. -/
theorem keepsTypesApart_iff_namesIdentify (snapshot : Snapshot) :
    snapshot.KeepsTypesApart ↔ snapshot.NamesIdentify := by
  constructor
  · intro apart s hs t ht same
    obtain ⟨group, gathered, inGroup⟩ := exists_mem_gather TypeSymbol.qualifiedName hs
    have first := ((mem_gather gathered).mp inGroup).2
    exact apart.identity_eq group gathered s inGroup t
      ((mem_gather gathered).mpr ⟨ht, same.symm.trans first⟩)
  · intro identify
    have agree : ∀ s ∈ snapshot.types, ∀ t ∈ snapshot.types,
        s.qualifiedName = t.qualifiedName ↔ s.identity = t.identity := by
      intro s hs t ht
      refine ⟨identify s hs t ht, fun same => ?_⟩
      simp only [TypeSymbol.identity, Prod.mk.injEq] at same
      rw [TypeSymbol.qualifiedName, TypeSymbol.qualifiedName, same.1, same.2.1, same.2.2.1]
    refine ⟨fun group gathered s hs t ht => ?_, fun suffix => ?_⟩
    · obtain ⟨declared, key⟩ := (mem_gather gathered).mp hs
      obtain ⟨declared', key'⟩ := (mem_gather gathered).mp ht
      exact identify s declared t declared' (key.trans key'.symm)
    · rw [discover, mergeParts_eq_mergeBy, mergeBy, mergeBy, gather_congr agree]

/-- Where names have no dots, every dotted name stands for one type exactly if no two declarations
are confusable. -/
theorem namesIdentify_iff (snapshot : Snapshot)
    (plain : ∀ t ∈ snapshot.types, t.HasPlainNames) :
    snapshot.NamesIdentify ↔ ∀ s ∈ snapshot.types, ∀ t ∈ snapshot.types, ¬ Confusable s t := by
  constructor
  · intro identify s hs t ht confusable
    obtain ⟨same, other⟩ := confusable.sound (plain s hs) (plain t ht)
    exact other (identify s hs t ht same)
  · intro clear s hs t ht same
    rcases identity_eq_or_confusable_of_qualifiedName_eq (plain s hs) (plain t ht) same with
      equal | confusable | confusable
    · exact equal
    · exact absurd confusable (clear s hs t ht)
    · exact absurd confusable (clear t ht s hs)

/-- The entries of merging are groups of declarations with one dotted name. They keep distinct types
apart exactly if every dotted name stands for one type, which, where names have no dots, is so
exactly if no two declarations differ only in the number of type parameters, and none is nested in
a type that is spelled like the namespace of another one of its name. -/
theorem keepsTypesApart_iff (snapshot : Snapshot) :
    mergeParts snapshot.types =
        (gather TypeSymbol.qualifiedName snapshot.types).map .ofGroup ∧
      (snapshot.KeepsTypesApart ↔ snapshot.NamesIdentify) ∧
      ((∀ t ∈ snapshot.types, t.HasPlainNames) →
        (snapshot.KeepsTypesApart ↔
          ∀ s ∈ snapshot.types, ∀ t ∈ snapshot.types, ¬ Confusable s t)) :=
  ⟨mergeParts_eq_mergeBy snapshot.types, keepsTypesApart_iff_namesIdentify snapshot,
    fun plain => (keepsTypesApart_iff_namesIdentify snapshot).trans
      (namesIdentify_iff snapshot plain)⟩

/-- A top-level type and a nested one of its name are kept apart, and so is a generic one of
another name. -/
theorem keepsTypesApart_nested :
    let panel := { publicClass "PanelController" ["Controller"] with namespaceName := some "App" }
    let inner := { publicClass "PanelController" [] with
      namespaceName := some "App", containingType := some "Admin" }
    let list := { publicClass "ListController" [] with
      namespaceName := some "App", genericArity := 1 }
    (∀ t ∈ [panel, inner, list], t.HasPlainNames) ∧
      KeepsTypesApart ⟨[panel, inner, list], []⟩ := by
  intro panel inner list
  have plain : ∀ t ∈ [panel, inner, list], t.HasPlainNames := by
    simp [TypeSymbol.HasPlainNames, panel, inner, list, publicClass]
  refine ⟨plain, ((keepsTypesApart_iff ⟨[panel, inner, list], []⟩).2.2 plain).mpr ?_⟩
  rintro s hs t ht (⟨name, -, container, other⟩ | ⟨container, name, inside, outside, spelled⟩)
  · simp only [List.mem_cons, List.not_mem_nil, or_false] at hs ht
    rcases hs with rfl | rfl | rfl <;> rcases ht with rfl | rfl | rfl <;>
      simp [panel, inner, list, publicClass] at name container other
  · simp only [List.mem_cons, List.not_mem_nil, or_false] at hs ht
    rcases hs with rfl | rfl | rfl <;> rcases ht with rfl | rfl | rfl <;>
      simp [panel, inner, list, publicClass] at name inside outside
    subst inside
    exact absurd (Option.some.inj spelled) (by decide +kernel)

end Snapshot

/-- A class and a generic class of the same name are different types, yet the one that is declared
second is taken for a part of the first: a controller is lost behind a generic class. -/
theorem generic_twin_hides_controller :
    let home := publicClass "HomeController" ["Controller"]
    let twin := { publicClass "HomeController" [] with genericArity := 1 }
    discover "Controller" ⟨[home], []⟩ = [controllerOf "Controller" (.ofPart home)] ∧
      discover "Controller" ⟨[twin, home], []⟩ = [] ∧
      ¬ Snapshot.KeepsTypesApart ⟨[twin, home], []⟩ := by
  intro home twin
  have shape : ∀ snapshot,
      classify "Controller" snapshot (MergedType.ofPart home).type = .controller :=
    fun _ => classify_eq_controller_iff.mpr ⟨by decide +kernel,
      Or.inr (Snapshot.inheritsFrom_of_mem List.mem_cons_self List.mem_cons_self)⟩
  have lost : discover "Controller" ⟨[twin, home], []⟩ = [] := by decide +kernel
  refine ⟨?_, lost, fun apart => ?_⟩
  · have merged : mergeParts [home] = [.ofPart home] := rfl
    rw [discover, merged, List.filter_cons, if_pos (decide_eq_true (shape _))]
    rfl
  · -- Merging by identity would have found the controller.
    have found := apart.discover_eq "Controller"
    have merged : mergeBy TypeSymbol.identity [twin, home] = [.ofPart twin, .ofPart home] := by
      decide +kernel
    rw [lost, merged, eq_comm, List.map_eq_nil_iff, List.filter_eq_nil_iff] at found
    exact found (.ofPart home) (List.mem_cons_of_mem _ List.mem_cons_self)
      (decide_eq_true (shape _))

end TypedMvc.Symbols
