import TypedMvc.Symbols.Snapshot

/-!
# Inheritance

Whether a type has one of some names among its bases, directly or through types declared in the
project. Bases from elsewhere count by their name but lead nowhere. Each qualified name is followed
once, so the search ends even where types inherit from each other in a circle.
-/

namespace TypedMvc.Symbols

namespace Snapshot

/-- The bases of a type, each with the namespace in which it is to be resolved. -/
def pendingOf (type : TypeSymbol) : List (String × Option String) :=
  type.baseTypes.map fun base => (base, type.namespaceName)

/-- How many declarations have a qualified name that has not been visited. -/
def unvisited (snapshot : Snapshot) (visited : List String) : Nat :=
  snapshot.types.countP fun t => !visited.contains t.qualifiedName

/-- Visiting a declaration of the project leaves fewer to visit. -/
theorem unvisited_cons_lt (snapshot : Snapshot) {visited : List String} {type : TypeSymbol}
    (mem : type ∈ snapshot.types) (fresh : ¬ visited.contains type.qualifiedName = true) :
    snapshot.unvisited (type.qualifiedName :: visited) < snapshot.unvisited visited := by
  have step : ∀ types : List TypeSymbol,
      types.countP (fun t => !(type.qualifiedName :: visited).contains t.qualifiedName) ≤
        types.countP (fun t => !visited.contains t.qualifiedName) := by
    intro types
    apply List.countP_mono_left
    intro t _ h
    simp only [List.contains_cons, Bool.not_or, Bool.and_eq_true] at h
    exact h.2
  unfold unvisited
  obtain ⟨before, after, eq⟩ := List.append_of_mem mem
  rw [eq]
  simp only [List.countP_append, List.countP_cons]
  have h1 := step before
  have h2 := step after
  simp only [List.contains_cons, BEq.rfl, Bool.true_or, Bool.not_true] at h1 h2 ⊢
  simp only [fresh, Bool.not_false, Bool.false_eq_true, if_false, if_true]
  omega

/-- A resolved name is a declaration of the project. -/
theorem mem_of_resolve {snapshot : Snapshot} {name : String} {scope : Option String}
    {type : TypeSymbol} (h : snapshot.resolve name scope = some type) :
    type ∈ snapshot.types := by
  unfold resolve at h
  simp only [Option.or_eq_some_iff] at h
  rcases h with h | ⟨_, h⟩
  · exact (List.mem_filter.1 (List.mem_of_find?_eq_some h)).1
  · exact (List.mem_filter.1 (List.mem_of_head? h)).1

/-- Follows pending bases, the last one first, past the qualified names already visited. -/
def reaches (snapshot : Snapshot) (names visited : List String) :
    List (String × Option String) → Bool
  | [] => false
  | (base, scope) :: pending =>
    if names.contains base then true
    else
      match _h : snapshot.resolve base scope with
      | none => reaches snapshot names visited pending
      | some type =>
        if _fresh : visited.contains type.qualifiedName then
          reaches snapshot names visited pending
        else
          reaches snapshot names (type.qualifiedName :: visited)
            ((pendingOf type).reverse ++ pending)
termination_by pending => (snapshot.unvisited visited, pending.length)
decreasing_by
  · exact Prod.Lex.right _ (by simp)
  · exact Prod.Lex.right _ (by simp)
  · exact Prod.Lex.left _ _ (unvisited_cons_lt snapshot (mem_of_resolve _h) _fresh)

/-- Whether a type has one of the names among its bases, directly or through declared types. -/
def inheritsFrom (snapshot : Snapshot) (type : TypeSymbol) (names : List String) : Bool :=
  reaches snapshot names [type.qualifiedName] (pendingOf type).reverse

end Snapshot

end TypedMvc.Symbols
