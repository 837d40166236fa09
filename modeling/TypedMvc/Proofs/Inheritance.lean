import Mathlib.Data.Multiset.AddSub
import Mathlib.Data.Prod.Lex
import Mathlib.Logic.Relation
import Mathlib.Order.WellFounded
import TypedMvc.Symbols.Inheritance

/-!
# The search through bases finds what a chain of bases reaches

`Snapshot.Descends` says without any search that a type has one of some names among its bases,
directly or through declared types: there is a chain of declarations, each one resolved from a
base name of the one before it in the namespace of that one. `Snapshot.inheritsFrom` looks for
such a chain with a list of pending bases and the qualified names already visited.

The order in which pending bases are taken is no part of the argument, so the search is described
once more by `Search.Round`, where the pending bases are a multiset and any of them may be taken
next. `Search.wellFounded_round` shows that no order goes on for ever, `Search.ends_reaches` that
the program's order is one of them, and `Search.descends_of_ends` that whatever is found has a
chain. The converse needs that a qualified name tells declarations apart (`Snapshot.Separates`):
then `Search.ends_iff_descends` shows that every order gives the same answer.
-/

namespace TypedMvc.Symbols

open Relation (ReflTransGen)

namespace Snapshot

/-- A declaration is a base of a type: one of the type's base names resolves to it. -/
def IsBase (snapshot : Snapshot) (type base : TypeSymbol) : Prop :=
  ∃ name ∈ type.baseTypes, snapshot.resolve name type.namespaceName = some base

/-- A type has one of some names among its bases, directly or through a chain of declarations. -/
def Descends (snapshot : Snapshot) (type : TypeSymbol) (names : List String) : Prop :=
  ∃ last, ReflTransGen snapshot.IsBase type last ∧ ∃ name ∈ last.baseTypes, name ∈ names

/-- A type descends from a name if it has it as a base, or if one of its bases does. -/
theorem descends_iff {snapshot : Snapshot} {type : TypeSymbol} {names : List String} :
    snapshot.Descends type names ↔
      (∃ name ∈ type.baseTypes, name ∈ names) ∨
        ∃ base, snapshot.IsBase type base ∧ snapshot.Descends base names := by
  constructor
  · rintro ⟨last, chain, named⟩
    rcases ReflTransGen.cases_head chain with rfl | ⟨base, step, rest⟩
    · exact Or.inl named
    · exact Or.inr ⟨base, step, last, rest, named⟩
  · rintro (named | ⟨base, step, last, rest, named⟩)
    · exact ⟨type, .refl, named⟩
    · exact ⟨last, .head step rest, named⟩

/-- Only the bases of a type and its namespace matter for what it descends from. -/
theorem descends_congr {snapshot : Snapshot} {s t : TypeSymbol} {names : List String}
    (space : s.namespaceName = t.namespaceName) (bases : ∀ x, x ∈ s.baseTypes ↔ x ∈ t.baseTypes) :
    snapshot.Descends s names ↔ snapshot.Descends t names := by
  rw [descends_iff, @descends_iff snapshot t]
  simp only [IsBase, space, bases]

/-- A chain of bases in one snapshot is followed step by step in another one, if every name there
resolves to a declaration that has the bases of the one it resolves to here. -/
theorem Descends.simulate {snapshot other : Snapshot} {names : List String}
    (resolves : ∀ name scope u, snapshot.resolve name scope = some u →
      ∃ v, other.resolve name scope = some v ∧ v.namespaceName = u.namespaceName ∧
        ∀ x ∈ u.baseTypes, x ∈ v.baseTypes)
    {s t : TypeSymbol} (space : t.namespaceName = s.namespaceName)
    (bases : ∀ x ∈ s.baseTypes, x ∈ t.baseTypes) (descends : snapshot.Descends s names) :
    other.Descends t names := by
  obtain ⟨last, chain, name, isBase, named⟩ := descends
  induction chain using ReflTransGen.head_induction_on generalizing t with
  | refl => exact descends_iff.mpr (Or.inl ⟨name, bases name isBase, named⟩)
  | head step _ ih =>
    obtain ⟨base, mem, resolved⟩ := step
    obtain ⟨v, found, space', bases'⟩ := resolves _ _ _ resolved
    rw [← space] at found
    exact descends_iff.mpr (Or.inr ⟨v, ⟨base, bases base mem, found⟩, ih space' bases'⟩)

/-- Some name resolves to the declaration. -/
def Resolvable (snapshot : Snapshot) (type : TypeSymbol) : Prop :=
  ∃ name scope, snapshot.resolve name scope = some type

/-- A declaration to which a name resolves is one of the snapshot. -/
theorem Resolvable.mem {snapshot : Snapshot} {type : TypeSymbol}
    (resolvable : snapshot.Resolvable type) : type ∈ snapshot.types := by
  obtain ⟨name, scope, resolved⟩ := resolvable
  exact mem_of_resolve resolved

/-- The declarations of a simple name. -/
def candidates (snapshot : Snapshot) (name : String) : List TypeSymbol :=
  snapshot.types.filter fun t => t.name == name

/-- The first of some declarations in a namespace, or else the first of them. -/
def pick (scope : Option String) (types : List TypeSymbol) : Option TypeSymbol :=
  (types.find? fun t => t.namespaceName == scope).or types.head?

/-- A name resolves to one of the declarations of it, by the namespace in which it stands. -/
theorem resolve_eq (snapshot : Snapshot) (name : String) (scope : Option String) :
    snapshot.resolve name scope = pick scope (snapshot.candidates name) := rfl

/-- A declaration of a simple name is called so. -/
theorem name_of_mem_candidates {snapshot : Snapshot} {name : String} {type : TypeSymbol}
    (mem : type ∈ snapshot.candidates name) : type.name = name :=
  eq_of_beq (List.mem_filter.mp mem).2

/-- A declaration to which a name resolves is the one to which its own name resolves in its own
namespace. -/
theorem resolve_self {snapshot : Snapshot} {type : TypeSymbol}
    (resolvable : snapshot.Resolvable type) :
    snapshot.resolve type.name type.namespaceName = some type := by
  obtain ⟨name, scope, resolved⟩ := resolvable
  rw [resolve_eq, pick, Option.or_eq_some_iff] at resolved
  rcases resolved with inScope | ⟨-, first⟩
  · have placed : type.namespaceName = scope := by simpa using List.find?_some inScope
    rw [name_of_mem_candidates (List.mem_of_find?_eq_some inScope), placed, resolve_eq, pick,
      inScope, Option.some_or]
  · obtain ⟨rest, candidates⟩ := List.head?_eq_some_iff.mp first
    rw [name_of_mem_candidates (List.mem_of_head? first), resolve_eq, pick, candidates]
    simp

/-- A base is one of the pending bases of its type. -/
theorem mem_pendingOf {type : TypeSymbol} {base : String} {scope : Option String} :
    (base, scope) ∈ pendingOf type ↔ base ∈ type.baseTypes ∧ type.namespaceName = scope := by
  simp [pendingOf]

/-- Qualified names tell apart what a search from a type can meet: no two declarations to which
names resolve share one, and one that shares it with the type itself has no bases of its own. -/
structure Separates (snapshot : Snapshot) (type : TypeSymbol) : Prop where
  /-- A qualified name belongs to one declaration that names resolve to. -/
  unique : ∀ s t, snapshot.Resolvable s → snapshot.Resolvable t →
    s.qualifiedName = t.qualifiedName → s = t
  /-- Where the search comes back to the type, it finds no base that it did not start from. -/
  start : ∀ t, snapshot.Resolvable t → t.qualifiedName = type.qualifiedName →
    ∀ entry ∈ pendingOf t, entry ∈ pendingOf type

/-- Without two declarations of one qualified name, a search from any declaration is told apart. -/
theorem separates_of_nodup {snapshot : Snapshot} {type : TypeSymbol}
    (nodup : (snapshot.types.map TypeSymbol.qualifiedName).Nodup) (mem : type ∈ snapshot.types) :
    snapshot.Separates type := by
  have inj : ∀ s ∈ snapshot.types, ∀ t ∈ snapshot.types,
      s.qualifiedName = t.qualifiedName → s = t :=
    fun s hs t ht h => List.inj_on_of_nodup_map nodup hs ht h
  refine ⟨fun s t hs ht h => inj s hs.mem t ht.mem h, fun t ht h => ?_⟩
  rw [inj t ht.mem type mem h]
  exact fun _ => id

end Snapshot

/-- A search in progress, the pending bases in no order. -/
structure Search where
  /-- The qualified names already visited. -/
  visited : List String
  /-- The bases still to be followed, each with the namespace in which it is to be resolved. -/
  pending : Multiset (String × Option String)

namespace Search

open Snapshot

/-- The search from a type, before anything is taken. -/
def start (type : TypeSymbol) : Search := ⟨[type.qualifiedName], ↑(pendingOf type)⟩

/-- One round of a search: some pending base is taken, and it is not one of the names. -/
inductive Round (snapshot : Snapshot) (names : List String) : Search → Search → Prop where
  /-- The base is from elsewhere. -/
  | leaves {visited : List String} {base : String} {scope : Option String}
      {rest : Multiset (String × Option String)} (other : base ∉ names)
      (undeclared : snapshot.resolve base scope = none) :
      Round snapshot names ⟨visited, (base, scope) ::ₘ rest⟩ ⟨visited, rest⟩
  /-- The base has been visited. -/
  | returns {visited : List String} {base : String} {scope : Option String}
      {rest : Multiset (String × Option String)} {type : TypeSymbol} (other : base ∉ names)
      (declared : snapshot.resolve base scope = some type)
      (known : type.qualifiedName ∈ visited) :
      Round snapshot names ⟨visited, (base, scope) ::ₘ rest⟩ ⟨visited, rest⟩
  /-- The base is visited, and its own bases become pending. -/
  | follows {visited : List String} {base : String} {scope : Option String}
      {rest : Multiset (String × Option String)} {type : TypeSymbol} (other : base ∉ names)
      (declared : snapshot.resolve base scope = some type)
      (fresh : type.qualifiedName ∉ visited) :
      Round snapshot names ⟨visited, (base, scope) ::ₘ rest⟩
        ⟨type.qualifiedName :: visited, ↑(pendingOf type) + rest⟩

/-- A search ends with an answer: the base that is taken is one of the names, or none is left. -/
inductive Answers (names : List String) : Search → Bool → Prop where
  /-- One of the names is taken. -/
  | found {search : Search} {base : String} {scope : Option String}
      (mem : (base, scope) ∈ search.pending) (named : base ∈ names) : Answers names search true
  /-- Nothing is left. -/
  | exhausted {search : Search} (empty : search.pending = 0) : Answers names search false

/-- A search can end with an answer if its pending bases are taken in some order. -/
def Ends (snapshot : Snapshot) (names : List String) (search : Search) (answer : Bool) : Prop :=
  ∃ last, ReflTransGen (Round snapshot names) search last ∧ Answers names last answer

variable {snapshot : Snapshot} {names : List String} {type : TypeSymbol}

/-! ## Every order comes to an end -/

/-- What decreases from round to round: the declarations not visited, or else the pending bases. -/
def measure (snapshot : Snapshot) (search : Search) : ℕ ×ₗ ℕ :=
  toLex (snapshot.unvisited search.visited, search.pending.card)

/-- A round leaves less to do. -/
theorem measure_lt_of_round {before after : Search} (round : Round snapshot names before after) :
    after.measure snapshot < before.measure snapshot := by
  rw [measure, measure, Prod.Lex.toLex_lt_toLex]
  cases round with
  | leaves => exact Or.inr ⟨rfl, by simp⟩
  | returns => exact Or.inr ⟨rfl, by simp⟩
  | follows _ declared fresh =>
    exact Or.inl (unvisited_cons_lt snapshot (mem_of_resolve declared) (by simpa using fresh))

/-- No order of taking pending bases goes on for ever. -/
theorem wellFounded_round (snapshot : Snapshot) (names : List String) :
    WellFounded fun after before => Round snapshot names before after :=
  Subrelation.wf (fun round => measure_lt_of_round round)
    (InvImage.wf (measure snapshot) wellFounded_lt)

/-- A search that has not ended can go on. -/
theorem answers_or_round (snapshot : Snapshot) (names : List String) (search : Search) :
    (∃ answer, Answers names search answer) ∨ ∃ next, Round snapshot names search next := by
  obtain ⟨visited, pending⟩ := search
  rcases Multiset.empty_or_exists_mem pending with rfl | ⟨⟨base, scope⟩, mem⟩
  · exact Or.inl ⟨false, .exhausted rfl⟩
  by_cases named : base ∈ names
  · exact Or.inl ⟨true, .found mem named⟩
  right
  obtain ⟨rest, rfl⟩ := Multiset.exists_cons_of_mem mem
  cases resolved : snapshot.resolve base scope with
  | none => exact ⟨_, .leaves named resolved⟩
  | some target =>
    by_cases known : target.qualifiedName ∈ visited
    · exact ⟨_, .returns named resolved known⟩
    · exact ⟨_, .follows named resolved known⟩

/-- One more round in front of a search that ends. -/
theorem Ends.head {before after : Search} {answer : Bool}
    (round : Round snapshot names before after) (ends : Ends snapshot names after answer) :
    Ends snapshot names before answer := by
  obtain ⟨last, run, answers⟩ := ends
  exact ⟨last, .head round run, answers⟩

/-- The order of the program, last base first, is one of the orders. -/
theorem ends_reaches (snapshot : Snapshot) (names visited : List String)
    (pending : List (String × Option String)) :
    Ends snapshot names ⟨visited, ↑pending⟩ (snapshot.reaches names visited pending) := by
  fun_induction snapshot.reaches names visited pending with
  | case1 visited => exact ⟨_, .refl, .exhausted rfl⟩
  | case2 visited base scope pending named =>
    have taken : (base, scope) ∈ (base, scope) :: pending := List.mem_cons_self
    exact ⟨_, .refl, .found taken (by simpa using named)⟩
  | case3 visited base scope pending other undeclared ih =>
    rw [← Multiset.cons_coe]
    exact ih.head (.leaves (by simpa using other) undeclared)
  | case4 visited base scope pending other target declared known ih =>
    rw [← Multiset.cons_coe]
    exact ih.head (.returns (by simpa using other) declared (by simpa using known))
  | case5 visited base scope pending other target declared fresh ih =>
    rw [← Multiset.coe_add, Multiset.coe_reverse] at ih
    rw [← Multiset.cons_coe]
    exact ih.head (.follows (by simpa using other) declared (by simpa using fresh))

/-- The search of the program ends like a search from the type in some order. -/
theorem ends_inheritsFrom (snapshot : Snapshot) (type : TypeSymbol) (names : List String) :
    Ends snapshot names (start type) (snapshot.inheritsFrom type names) := by
  have ends := ends_reaches snapshot names [type.qualifiedName] (pendingOf type).reverse
  rw [Multiset.coe_reverse] at ends
  exact ends

/-! ## What is found has a chain -/

/-- Every pending base is one of a declaration that a chain from the type leads to. -/
def Grounded (snapshot : Snapshot) (type : TypeSymbol) (search : Search) : Prop :=
  ∀ base scope, (base, scope) ∈ search.pending →
    ∃ t, ReflTransGen snapshot.IsBase type t ∧ base ∈ t.baseTypes ∧ t.namespaceName = scope

/-- A search starts with the bases of the type. -/
theorem grounded_start (snapshot : Snapshot) (type : TypeSymbol) :
    (start type).Grounded snapshot type := by
  intro base scope mem
  exact ⟨type, .refl, mem_pendingOf.mp (Multiset.mem_coe.mp mem)⟩

/-- A round adds only bases of a declaration that the chain goes on to. -/
theorem Grounded.round {before after : Search} (grounded : before.Grounded snapshot type)
    (round : Round snapshot names before after) : after.Grounded snapshot type := by
  intro base scope mem
  cases round with
  | leaves => exact grounded base scope (Multiset.mem_cons_of_mem mem)
  | returns => exact grounded base scope (Multiset.mem_cons_of_mem mem)
  | @follows _ taken place _ target _ declared =>
    rcases Multiset.mem_add.mp mem with new | old
    · obtain ⟨t, chain, isBase, rfl⟩ := grounded taken place (Multiset.mem_cons_self _ _)
      exact ⟨target, .tail chain ⟨taken, isBase, declared⟩,
        mem_pendingOf.mp (Multiset.mem_coe.mp new)⟩
    · exact grounded base scope (Multiset.mem_cons_of_mem old)

/-- Throughout a search the pending bases are those of declarations in a chain. -/
theorem grounded_of_run {search : Search}
    (run : ReflTransGen (Round snapshot names) (start type) search) :
    search.Grounded snapshot type := by
  induction run with
  | refl => exact grounded_start snapshot type
  | tail _ round ih => exact ih.round round

/-- A search that ends with yes has found a chain, whatever the order. -/
theorem descends_of_ends (ends : Ends snapshot names (start type) true) :
    snapshot.Descends type names := by
  obtain ⟨last, run, answers⟩ := ends
  cases answers with
  | found mem named =>
    obtain ⟨t, chain, isBase, -⟩ := grounded_of_run run _ _ mem
    exact ⟨t, chain, _, isBase, named⟩

/-! ## What has a chain is found -/

/-- The declarations whose bases a search has made pending: the type itself, and those it has
visited. -/
def Expanded (snapshot : Snapshot) (type : TypeSymbol) (search : Search) (t : TypeSymbol) : Prop :=
  t = type ∨ snapshot.Resolvable t ∧ t.qualifiedName ∈ search.visited

/-- No base is lost: those of an expanded declaration are pending, or they are none of the names
and lead to nothing but visited declarations. -/
def Covers (snapshot : Snapshot) (names : List String) (type : TypeSymbol) (search : Search) :
    Prop :=
  ∀ t, search.Expanded snapshot type t → ∀ base ∈ t.baseTypes,
    (base, t.namespaceName) ∈ search.pending ∨
      base ∉ names ∧ ∀ u, snapshot.resolve base t.namespaceName = some u →
        u.qualifiedName ∈ search.visited

/-- At the start all bases of the type are pending. -/
theorem covers_start (names : List String) (sep : snapshot.Separates type) :
    (start type).Covers snapshot names type := by
  rintro t (rfl | ⟨resolvable, visited⟩) base isBase
  · exact Or.inl (Multiset.mem_coe.mpr (mem_pendingOf.mpr ⟨isBase, rfl⟩))
  · have same : t.qualifiedName = type.qualifiedName := by simpa [start] using visited
    exact Or.inl (Multiset.mem_coe.mpr
      (sep.start t resolvable same _ (mem_pendingOf.mpr ⟨isBase, rfl⟩)))

/-- A base that is taken without being followed is none of the names, and what it leads to has
been visited. -/
theorem Covers.drop {visited : List String} {base : String} {scope : Option String}
    {rest : Multiset (String × Option String)}
    (covers : Covers snapshot names type ⟨visited, (base, scope) ::ₘ rest⟩) (other : base ∉ names)
    (known : ∀ u, snapshot.resolve base scope = some u → u.qualifiedName ∈ visited) :
    Covers snapshot names type ⟨visited, rest⟩ := by
  intro t expanded name isBase
  rcases covers t expanded name isBase with mem | done
  · rcases Multiset.mem_cons.mp mem with taken | left
    · obtain ⟨rfl, rfl⟩ := Prod.mk.inj taken
      exact Or.inr ⟨other, known⟩
    · exact Or.inl left
  · exact Or.inr done

/-- A round loses no base. -/
theorem Covers.round {before after : Search} (covers : before.Covers snapshot names type)
    (sep : snapshot.Separates type) (round : Round snapshot names before after) :
    after.Covers snapshot names type := by
  cases round with
  | leaves other undeclared => exact covers.drop other (by simp [undeclared])
  | returns other declared known =>
    refine covers.drop other fun u resolved => ?_
    rw [declared, Option.some.injEq] at resolved
    rwa [← resolved]
  | @follows visited taken scope rest target other declared fresh =>
    intro t expanded base isBase
    -- Only the target itself has become expanded, and all its bases are pending.
    by_cases new : snapshot.Resolvable t ∧ t.qualifiedName = target.qualifiedName
    · rw [sep.unique t target new.1 ⟨taken, scope, declared⟩ new.2] at isBase ⊢
      exact Or.inl (Multiset.mem_add.mpr
        (Or.inl (Multiset.mem_coe.mpr (mem_pendingOf.mpr ⟨isBase, rfl⟩))))
    have old : Expanded snapshot type ⟨visited, (taken, scope) ::ₘ rest⟩ t := by
      rcases expanded with rfl | ⟨resolvable, mem⟩
      · exact Or.inl rfl
      · rcases List.mem_cons.mp mem with same | known
        · exact absurd ⟨resolvable, same⟩ new
        · exact Or.inr ⟨resolvable, known⟩
    rcases covers t old base isBase with mem | ⟨unnamed, known⟩
    · rcases Multiset.mem_cons.mp mem with same | left
      · obtain ⟨rfl, rfl⟩ := Prod.mk.inj same
        refine Or.inr ⟨other, fun u resolved => ?_⟩
        rw [declared, Option.some.injEq] at resolved
        rw [← resolved]
        exact List.mem_cons_self
      · exact Or.inl (Multiset.mem_add.mpr (Or.inr left))
    · exact Or.inr ⟨unnamed, fun u resolved => List.mem_cons_of_mem _ (known u resolved)⟩

/-- Throughout a search no base is lost. -/
theorem covers_of_run (sep : snapshot.Separates type) {search : Search}
    (run : ReflTransGen (Round snapshot names) (start type) search) :
    search.Covers snapshot names type := by
  induction run with
  | refl => exact covers_start names sep
  | tail _ round ih => exact ih.round sep round

/-- Where nothing is pending and no base was lost, no chain leads to any of the names. -/
theorem Covers.not_descends {search : Search} (covers : search.Covers snapshot names type)
    (empty : search.pending = 0) : ¬ snapshot.Descends type names := by
  have done : ∀ t, search.Expanded snapshot type t → ∀ base ∈ t.baseTypes,
      base ∉ names ∧ ∀ u, snapshot.resolve base t.namespaceName = some u →
        u.qualifiedName ∈ search.visited := by
    intro t expanded base isBase
    rcases covers t expanded base isBase with mem | done
    · rw [empty] at mem
      exact absurd mem (Multiset.notMem_zero _)
    · exact done
  have expanded : ∀ t, ReflTransGen snapshot.IsBase type t → search.Expanded snapshot type t := by
    intro t chain
    induction chain with
    | refl => exact Or.inl rfl
    | tail _ step ih =>
      obtain ⟨base, mem, resolved⟩ := step
      exact Or.inr ⟨⟨base, _, resolved⟩, (done _ ih base mem).2 _ resolved⟩
  rintro ⟨last, chain, name, isBase, named⟩
  exact (done last (expanded last chain) name isBase).1 named

/-- Where qualified names tell declarations apart, every order gives the answer that there is a
chain or that there is none. -/
theorem ends_iff_descends (sep : snapshot.Separates type) {answer : Bool}
    (ends : Ends snapshot names (start type) answer) :
    answer = true ↔ snapshot.Descends type names := by
  constructor
  · rintro rfl
    exact descends_of_ends ends
  · intro descends
    obtain ⟨last, run, answers⟩ := ends
    cases answers with
    | found => rfl
    | exhausted empty => exact absurd descends ((covers_of_run sep run).not_descends empty)

end Search

namespace Snapshot

/-- The search of the program finds a chain exactly if there is one, where qualified names tell
declarations apart. -/
theorem inheritsFrom_iff_descends {snapshot : Snapshot} {type : TypeSymbol} {names : List String}
    (sep : snapshot.Separates type) :
    snapshot.inheritsFrom type names = true ↔ snapshot.Descends type names :=
  Search.ends_iff_descends sep (Search.ends_inheritsFrom snapshot type names)

/-- What the search of the program finds has a chain, whatever the declarations are. -/
theorem descends_of_inheritsFrom {snapshot : Snapshot} {type : TypeSymbol} {names : List String}
    (found : snapshot.inheritsFrom type names = true) : snapshot.Descends type names := by
  have ends := Search.ends_inheritsFrom snapshot type names
  rw [found] at ends
  exact Search.descends_of_ends ends

/-- A name that is pending is found, whatever the declarations are. -/
theorem reaches_of_mem {snapshot : Snapshot} {names visited : List String}
    {pending : List (String × Option String)} {base : String} {scope : Option String}
    (mem : (base, scope) ∈ pending) (named : base ∈ names) :
    snapshot.reaches names visited pending = true := by
  fun_induction snapshot.reaches names visited pending with
  | case1 => simp at mem
  | case2 => rfl
  | case3 visited first place pending other undeclared ih
  | case4 visited first place pending other target declared known ih =>
    rcases List.mem_cons.mp mem with same | later
    · rw [(Prod.mk.inj same).1] at named
      exact absurd (List.contains_iff_mem.mpr named) other
    · exact ih later
  | case5 visited first place pending other target declared fresh ih =>
    rcases List.mem_cons.mp mem with same | later
    · rw [(Prod.mk.inj same).1] at named
      exact absurd (List.contains_iff_mem.mpr named) other
    · exact ih (List.mem_append_right _ later)

/-- A type with one of the names among its own bases needs no declaration to inherit from it. -/
theorem inheritsFrom_of_mem {snapshot : Snapshot} {type : TypeSymbol} {names : List String}
    {base : String} (isBase : base ∈ type.baseTypes) (named : base ∈ names) :
    snapshot.inheritsFrom type names = true :=
  reaches_of_mem (List.mem_reverse.mpr (mem_pendingOf.mpr ⟨isBase, rfl⟩)) named

section Steps

variable {snapshot : Snapshot} {names visited : List String}
  {pending : List (String × Option String)} {base : String} {scope : Option String}

/-- A base from elsewhere is left out. -/
theorem reaches_of_undeclared (unnamed : ¬ names.contains base = true)
    (undeclared : snapshot.resolve base scope = none) :
    snapshot.reaches names visited ((base, scope) :: pending) =
      snapshot.reaches names visited pending := by
  rw [reaches, if_neg unnamed]
  split
  · rfl
  · next declared => exact absurd (undeclared.symm.trans declared) (Option.some_ne_none _).symm

/-- A base that has been visited is left out. -/
theorem reaches_of_known {type : TypeSymbol} (unnamed : ¬ names.contains base = true)
    (declared : snapshot.resolve base scope = some type)
    (known : visited.contains type.qualifiedName = true) :
    snapshot.reaches names visited ((base, scope) :: pending) =
      snapshot.reaches names visited pending := by
  rw [reaches, if_neg unnamed]
  split
  · rfl
  · next declared' =>
    obtain rfl := Option.some.inj (declared.symm.trans declared')
    rw [dif_pos known]

/-- A base that has not been visited is followed. -/
theorem reaches_of_fresh {type : TypeSymbol} (unnamed : ¬ names.contains base = true)
    (declared : snapshot.resolve base scope = some type)
    (fresh : ¬ visited.contains type.qualifiedName = true) :
    snapshot.reaches names visited ((base, scope) :: pending) =
      snapshot.reaches names (type.qualifiedName :: visited)
        ((pendingOf type).reverse ++ pending) := by
  rw [reaches, if_neg unnamed]
  split
  · next undeclared => exact absurd (declared.symm.trans undeclared) (Option.some_ne_none type)
  · next declared' =>
    obtain rfl := Option.some.inj (declared.symm.trans declared')
    rw [dif_neg fresh]

end Steps

/-- What is related to nothing is nothing. -/
theorem eq_none_of_rel {α β : Type} {r : α → β → Prop} {b : Option β}
    (rel : Option.Rel r none b) : b = none := by
  cases rel
  rfl

/-- What is related to something is something. -/
theorem exists_eq_some_of_rel {α β : Type} {r : α → β → Prop} {u : α} {b : Option β}
    (rel : Option.Rel r (some u) b) : ∃ v, b = some v ∧ r u v := by
  cases rel with
  | some related => exact ⟨_, rfl, related⟩

/-- The search sees nothing of a declaration but its qualified name and its pending bases, and it
resolves no names but the pending ones and the bases of declarations. -/
theorem reaches_congr_on {snapshot other : Snapshot} {names visited : List String}
    {pending : List (String × Option String)} (among : String → Prop)
    (resolves : ∀ name scope, among name → Option.Rel
      (fun u v => v.qualifiedName = u.qualifiedName ∧ pendingOf v = pendingOf u)
      (snapshot.resolve name scope) (other.resolve name scope))
    (closed : ∀ type ∈ snapshot.types, ∀ base ∈ type.baseTypes, among base)
    (start : ∀ base scope, (base, scope) ∈ pending → among base) :
    other.reaches names visited pending = snapshot.reaches names visited pending := by
  -- All bases that are looked up resolve alike, so the search takes the same steps in both.
  fun_induction snapshot.reaches names visited pending with
  | case1 => rw [reaches]
  | case2 visited base scope pending named => rw [reaches, if_pos named]
  | case3 visited base scope pending unnamed undeclared ih =>
    have related := resolves base scope (start base scope List.mem_cons_self)
    rw [reaches_of_undeclared unnamed (eq_none_of_rel (undeclared ▸ related)),
      ih fun b s mem => start b s (List.mem_cons_of_mem _ mem)]
  | case4 visited base scope pending unnamed u declared known ih =>
    have related := resolves base scope (start base scope List.mem_cons_self)
    obtain ⟨v, declared', name, -⟩ := exists_eq_some_of_rel (declared ▸ related)
    rw [reaches_of_known unnamed declared' (by rw [name, known]),
      ih fun b s mem => start b s (List.mem_cons_of_mem _ mem)]
  | case5 visited base scope pending unnamed u declared fresh ih =>
    have related := resolves base scope (start base scope List.mem_cons_self)
    obtain ⟨v, declared', name, bases⟩ := exists_eq_some_of_rel (declared ▸ related)
    rw [reaches_of_fresh unnamed declared' (by rwa [name]), name, bases, ih]
    intro b s mem
    rcases List.mem_append.mp mem with new | old
    · exact closed u (mem_of_resolve declared) b (mem_pendingOf.mp (List.mem_reverse.mp new)).1
    · exact start b s (List.mem_cons_of_mem _ old)

/-- The search sees nothing of a declaration but its qualified name and its pending bases. -/
theorem reaches_congr {snapshot other : Snapshot} {names visited : List String}
    {pending : List (String × Option String)}
    (resolves : ∀ name scope, Option.Rel
      (fun u v => v.qualifiedName = u.qualifiedName ∧ pendingOf v = pendingOf u)
      (snapshot.resolve name scope) (other.resolve name scope)) :
    other.reaches names visited pending = snapshot.reaches names visited pending :=
  reaches_congr_on (fun _ => True) (fun name scope _ => resolves name scope)
    (fun _ _ _ _ => trivial) (fun _ _ _ => trivial)

/-- The search through bases is reachability. It ends in whatever order pending bases are taken,
also where types inherit from each other in a circle, and what it finds has a chain of bases. If
no two declarations share a qualified name, every chain is found, and every order gives the answer
of the program's. -/
theorem inheritsFrom_decides_descends (snapshot : Snapshot) (names : List String) :
    (WellFounded fun after before => Search.Round snapshot names before after) ∧
    (∀ search, (∃ answer, Search.Answers names search answer) ∨
      ∃ next, Search.Round snapshot names search next) ∧
    ∀ type ∈ snapshot.types,
      Search.Ends snapshot names (.start type) (snapshot.inheritsFrom type names) ∧
      (snapshot.inheritsFrom type names = true → snapshot.Descends type names) ∧
      ((snapshot.types.map TypeSymbol.qualifiedName).Nodup →
        (snapshot.Descends type names → snapshot.inheritsFrom type names = true) ∧
        ∀ answer, Search.Ends snapshot names (.start type) answer →
          answer = snapshot.inheritsFrom type names) := by
  refine ⟨Search.wellFounded_round snapshot names, Search.answers_or_round snapshot names,
    fun type mem => ⟨Search.ends_inheritsFrom snapshot type names, descends_of_inheritsFrom,
      fun nodup => ?_⟩⟩
  have sep := separates_of_nodup nodup mem
  refine ⟨(inheritsFrom_iff_descends sep).mpr, fun answer ends => ?_⟩
  rw [Bool.eq_iff_iff, Search.ends_iff_descends sep ends, inheritsFrom_iff_descends sep]

end Snapshot

/-! ## Two classes in a circle -/

/-- A public class of which only the name and the bases matter. -/
def publicClass (name : String) (baseTypes : List String) : TypeSymbol where
  name
  namespaceName := none
  kind := .classType
  containingType := none
  modifiers := ["public"]
  attributes := []
  baseTypes
  genericArity := 0
  methods := []
  file := "App.cs"
  line := 1

/-- Two classes that inherit from each other, and one of them from a class from elsewhere. -/
def circle : Snapshot :=
  ⟨[publicClass "First" ["Second"], publicClass "Second" ["First", "Controller"]], []⟩

/-- Every search from the first class of the circle comes to the class from elsewhere. -/
theorem circle_inheritsFrom :
    (circle.types.map TypeSymbol.qualifiedName).Nodup ∧
    publicClass "First" ["Second"] ∈ circle.types ∧
    circle.inheritsFrom (publicClass "First" ["Second"]) ["Controller"] = true ∧
    ∀ answer, Search.Ends circle ["Controller"] (.start (publicClass "First" ["Second"])) answer →
      answer = true := by
  have nodup : (circle.types.map TypeSymbol.qualifiedName).Nodup := by decide
  have mem : publicClass "First" ["Second"] ∈ circle.types := List.mem_cons_self
  have chain : circle.Descends (publicClass "First" ["Second"]) ["Controller"] :=
    ⟨publicClass "Second" ["First", "Controller"], .single ⟨"Second", by decide, by decide⟩,
      "Controller", by decide, by decide⟩
  obtain ⟨complete, same⟩ :=
    ((Snapshot.inheritsFrom_decides_descends circle ["Controller"]).2.2 _ mem).2.2 nodup
  refine ⟨nodup, mem, complete chain, fun answer ends => ?_⟩
  rw [same answer ends, complete chain]

end TypedMvc.Symbols
