import TypedMvc.Proofs.Inheritance
import TypedMvc.Proofs.Merging

/-!
# Searching from a merged type

A type is merged before its bases are looked at, but what its bases lead to are single
declarations. Where a dotted name fixes simple name and namespace (`Snapshot.Unambiguous`; a type
may still be declared in parts), a search from a merged type is told apart, so it finds what a
chain of bases reaches.
-/

namespace TypedMvc.Symbols.Snapshot

/-- Declarations with the same dotted name have the same simple name and namespace. -/
def Unambiguous (snapshot : Snapshot) : Prop :=
  ∀ s ∈ snapshot.types, ∀ t ∈ snapshot.types, s.qualifiedName = t.qualifiedName →
    s.name = t.name ∧ s.namespaceName = t.namespaceName

/-- Declarations to which names resolve are told apart by unambiguous dotted names. -/
theorem Unambiguous.eq_of_resolvable {snapshot : Snapshot} (unambiguous : snapshot.Unambiguous)
    {s t : TypeSymbol} (hs : snapshot.Resolvable s) (ht : snapshot.Resolvable t)
    (same : s.qualifiedName = t.qualifiedName) : s = t := by
  obtain ⟨name, space⟩ := unambiguous s hs.mem t ht.mem same
  have self := resolve_self hs
  rw [name, space, resolve_self ht] at self
  exact (Option.some.inj self).symm

/-- A search from a merged type is told apart by unambiguous dotted names. -/
theorem Unambiguous.separates {snapshot : Snapshot} (unambiguous : snapshot.Unambiguous)
    {merged : MergedType} (mem : merged ∈ mergeParts snapshot.types) :
    snapshot.Separates merged.type := by
  refine ⟨fun s t hs ht => unambiguous.eq_of_resolvable hs ht, ?_⟩
  rintro t resolvable same ⟨base, scope⟩ pending
  obtain ⟨⟨part, declared, samePart, -, partSpace⟩, bases⟩ := mem_mergeParts mem
  obtain ⟨isBase, rfl⟩ := mem_pendingOf.mp pending
  have space := (unambiguous t resolvable.mem part declared (same.trans samePart.symm)).2
  exact mem_pendingOf.mpr
    ⟨(bases base).mpr ⟨t, resolvable.mem, same, isBase⟩, (space.trans partSpace).symm⟩

/-- What a merged type inherits from is what a chain of bases reaches, if dotted names are
unambiguous. -/
theorem Unambiguous.inheritsFrom_iff {snapshot : Snapshot} (unambiguous : snapshot.Unambiguous)
    {merged : MergedType} (mem : merged ∈ mergeParts snapshot.types) {names : List String} :
    snapshot.inheritsFrom merged.type names = true ↔ snapshot.Descends merged.type names :=
  inheritsFrom_iff_descends (unambiguous.separates mem)

end TypedMvc.Symbols.Snapshot
