import Mathlib.Data.List.Basic
import TypedMvc.Proofs.DeclaredTypes
import TypedMvc.Symbols.Diagnostic

/-!
# Which faults of a tree are reported

A node is a fault if it is an error node or stands for a missing token. Faults may lie inside other
ones, and only the outermost ones count (`IsOutermost`): those with no fault on the way to them.
`faultsIn` finds them with their places by going through all of a tree, without looking ahead:
each of them once (`mem_faultsIn`), in the order of their places (`pairwise_faultsIn`), and none
exactly if the tree is said to have no error (`faultsIn_eq_nil_iff`), which says that there is no
fault at any place of it (`hasError_iff`).
-/

namespace TypedMvc.CSharp.Node

variable {node : Node}

/-! ## Faults -/

/-- The node is an error node or stands for a missing token. -/
def IsFault (node : Node) : Prop := node.label = .error ∨ node.supplied = true

instance (node : Node) : Decidable node.IsFault := instDecidableOr

/-- One of several nodes has a fault if there is one with a fault among them. -/
theorem anyHasError_iff {nodes : List Node} :
    anyHasError nodes = true ↔ ∃ node ∈ nodes, node.hasError = true := by
  induction nodes with
  | nil => simp [anyHasError]
  | cons node rest ih => rw [anyHasError, Bool.or_eq_true, ih, List.exists_mem_cons_iff]

/-- A node has a fault if it is one or one of its children has one. -/
theorem hasError_iff_children :
    node.hasError = true ↔ node.IsFault ∨ ∃ child ∈ node.children, child.hasError = true := by
  obtain ⟨label, role, span, supplied, children⟩ := node
  rw [hasError, Bool.or_eq_true, Bool.or_eq_true, beq_iff_eq, anyHasError_iff]
  rfl

/-- A node has a fault exactly if there is a fault at some place of it. -/
theorem hasError_iff :
    node.hasError = true ↔ ∃ place inner, node.at? place = some inner ∧ inner.IsFault := by
  induction node using children_induction with
  | step node ih =>
    rw [hasError_iff_children]
    constructor
    · rintro (fault | ⟨child, mem, inside⟩)
      · exact ⟨[], node, rfl, fault⟩
      · obtain ⟨place, inner, here, fault⟩ := (ih child mem).mp inside
        obtain ⟨front, behind, split⟩ := List.append_of_mem mem
        exact ⟨front.length :: place, inner, (at?_cons place split).trans here, fault⟩
    · rintro ⟨place, inner, here, fault⟩
      cases place with
      | nil =>
        obtain rfl := Option.some.inj here
        exact Or.inl fault
      | cons i place =>
        rw [at?, Option.bind_eq_some_iff] at here
        obtain ⟨child, isChild, below⟩ := here
        have mem := List.mem_of_getElem? isChild
        exact Or.inr ⟨child, mem, (ih child mem).mpr ⟨place, inner, below, fault⟩⟩

/-! ## Outermost faults -/

/-- A fault at a place of a tree that is inside no other one. -/
structure IsOutermost (root : Node) (place : List ℕ) (node : Node) : Prop where
  /-- The node is at the place. -/
  here : root.at? place = some node
  /-- It is a fault. -/
  fault : node.IsFault
  /-- No node on the way to it is one. -/
  clear : ∀ above, above <+: place → above ≠ place → ∀ other, root.at? above = some other →
    ¬ other.IsFault

/-- A fault is its own outermost one, and no fault inside it is. -/
theorem isOutermost_of_isFault (fault : node.IsFault) {place : List ℕ} {inner : Node} :
    IsOutermost node place inner ↔ place = [] ∧ inner = node := by
  constructor
  · rintro ⟨here, -, clear⟩
    have atRoot : place = [] := by
      by_contra below
      exact clear [] List.nil_prefix (Ne.symm below) node rfl fault
    subst atRoot
    exact ⟨rfl, (Option.some.inj here).symm⟩
  · rintro ⟨rfl, rfl⟩
    refine ⟨rfl, fault, fun above inFront notHere => ?_⟩
    exact absurd (List.prefix_nil.mp inFront) notHere

/-- The outermost faults of a node that is none are those of its children. -/
theorem isOutermost_of_not_isFault (noFault : ¬ node.IsFault) {place : List ℕ} {inner : Node} :
    IsOutermost node place inner ↔
      ∃ i rest child, place = i :: rest ∧ node.children[i]? = some child ∧
        IsOutermost child rest inner := by
  constructor
  · rintro ⟨here, fault, clear⟩
    -- The node is no fault, so a place with a fault lies below one of its children.
    cases place with
    | nil =>
      obtain rfl := Option.some.inj here
      exact absurd fault noFault
    | cons i rest =>
      rw [at?, Option.bind_eq_some_iff] at here
      obtain ⟨child, isChild, below⟩ := here
      refine ⟨i, rest, child, rfl, isChild, below, fault, fun above inFront notHere other at_ => ?_⟩
      refine clear (i :: above) ((List.prefix_cons_inj i).mpr inFront) ?_ other ?_
      · exact fun same => notHere (List.cons.inj same).2
      · rw [at?, isChild]
        exact at_
  · rintro ⟨i, rest, child, rfl, isChild, here, fault, clear⟩
    have below : ∀ place, node.at? (i :: place) = child.at? place := by
      intro place
      rw [at?, isChild]
      rfl
    refine ⟨(below rest).trans here, fault, fun above inFront notHere other at_ => ?_⟩
    cases above with
    | nil =>
      obtain rfl := Option.some.inj at_
      exact noFault
    | cons j above =>
      obtain ⟨rfl, before⟩ := List.cons_prefix_cons.mp inFront
      exact clear above before (fun same => notHere (congrArg _ same)) other
        ((below above).symm.trans at_)

mutual
/-- The outermost faults of a tree with their places. -/
def faultsIn : Node → List (List ℕ × Node)
  | .mk label role span supplied children =>
    let node := Node.mk label role span supplied children
    if node.IsFault then [([], node)] else faultsAmong 0 children

/-- The outermost faults of siblings with their places below the parent, where so many siblings
stand in front of them. -/
def faultsAmong (k : ℕ) : List Node → List (List ℕ × Node)
  | [] => []
  | node :: rest =>
    ((faultsIn node).map fun fault => (k :: fault.1, fault.2)) ++ faultsAmong (k + 1) rest
end

/-- A fault has no others that count. -/
theorem faultsIn_of_isFault (fault : node.IsFault) : node.faultsIn = [([], node)] := by
  obtain ⟨label, role, span, supplied, children⟩ := node
  rw [faultsIn, if_pos fault]

/-- The faults of a node that is none are those of its children. -/
theorem faultsIn_of_not_isFault (noFault : ¬ node.IsFault) :
    node.faultsIn = faultsAmong 0 node.children := by
  obtain ⟨label, role, span, supplied, children⟩ := node
  rw [faultsIn, if_neg noFault]
  rfl

/-- A fault among siblings is one of a sibling. -/
theorem mem_faultsAmong {k : ℕ} {nodes : List Node} {place : List ℕ} {inner : Node} :
    (place, inner) ∈ faultsAmong k nodes ↔
      ∃ i rest child, place = (k + i) :: rest ∧ nodes[i]? = some child ∧
        (rest, inner) ∈ child.faultsIn := by
  induction nodes generalizing k with
  | nil => simp [faultsAmong]
  | cons node others ih =>
    rw [faultsAmong, List.mem_append, List.mem_map, ih]
    constructor
    · rintro (⟨⟨rest, fault⟩, mem, same⟩ | ⟨i, rest, child, rfl, isChild, mem⟩)
      · obtain ⟨rfl, rfl⟩ := Prod.mk.inj same
        exact ⟨0, rest, node, rfl, rfl, mem⟩
      · refine ⟨i + 1, rest, child, ?_, isChild, mem⟩
        rw [Nat.add_right_comm, Nat.add_assoc]
    · rintro ⟨i, rest, child, rfl, isChild, mem⟩
      cases i with
      | zero =>
        obtain rfl : node = child := Option.some.inj isChild
        exact Or.inl ⟨(rest, inner), mem, rfl⟩
      | succ i =>
        refine Or.inr ⟨i, rest, child, ?_, isChild, mem⟩
        rw [Nat.add_right_comm, Nat.add_assoc]

/-- The faults that are found are the outermost ones. -/
theorem mem_faultsIn {place : List ℕ} {inner : Node} :
    (place, inner) ∈ node.faultsIn ↔ IsOutermost node place inner := by
  induction node using children_induction generalizing place with
  | step node ih =>
    by_cases fault : node.IsFault
    · rw [faultsIn_of_isFault fault, isOutermost_of_isFault fault, List.mem_singleton,
        Prod.mk.injEq]
    · rw [faultsIn_of_not_isFault fault, isOutermost_of_not_isFault fault, mem_faultsAmong]
      simp only [Nat.zero_add]
      refine exists_congr fun i => exists_congr fun rest => exists_congr fun child => ?_
      refine and_congr_right fun _ => and_congr_right fun isChild => ?_
      exact ih child (List.mem_of_getElem? isChild)

/-- The faults among siblings are in the order of their places if those of each sibling are. -/
theorem pairwise_faultsAmong {nodes : List Node}
    (ordered : ∀ node ∈ nodes, (node.faultsIn.map Prod.fst).Pairwise (· < ·)) (k : ℕ) :
    ((faultsAmong k nodes).map Prod.fst).Pairwise (· < ·) := by
  induction nodes generalizing k with
  | nil => exact List.Pairwise.nil
  | cons node rest ih =>
    obtain ⟨own, others⟩ := List.forall_mem_cons.mp ordered
    rw [faultsAmong, List.map_append, List.map_map, List.pairwise_append]
    refine ⟨?_, ih others (k + 1), ?_⟩
    · rw [List.pairwise_map] at own ⊢
      exact own.imp fun before => List.cons_lt_cons_iff.mpr (Or.inr ⟨rfl, before⟩)
    · -- The index of the first sibling is below that of all others.
      intro place isFirst other isOther
      obtain ⟨fault, -, rfl⟩ := List.mem_map.mp isFirst
      obtain ⟨⟨place, inner⟩, mem, rfl⟩ := List.mem_map.mp isOther
      obtain ⟨i, rest, child, rfl, -, -⟩ := mem_faultsAmong.mp mem
      exact List.cons_lt_cons_iff.mpr (Or.inl (by omega))

/-- The faults that are found are in the order of their places. -/
theorem pairwise_faultsIn (node : Node) : (node.faultsIn.map Prod.fst).Pairwise (· < ·) := by
  induction node using children_induction with
  | step node ih =>
    by_cases fault : node.IsFault
    · rw [faultsIn_of_isFault fault]
      exact List.pairwise_singleton _ _
    · rw [faultsIn_of_not_isFault fault]
      exact pairwise_faultsAmong ih 0

/-- A node with a fault in it has an outermost one. -/
theorem faultsIn_eq_nil_iff : node.faultsIn = [] ↔ node.hasError = false := by
  induction node using children_induction with
  | step node ih =>
    rw [← Bool.not_eq_true, hasError_iff_children]
    by_cases fault : node.IsFault
    · simp [faultsIn_of_isFault fault, fault]
    · rw [faultsIn_of_not_isFault fault, or_iff_right fault, List.eq_nil_iff_forall_not_mem]
      constructor
      · rintro none ⟨child, mem, inside⟩
        obtain ⟨i, isChild⟩ := List.getElem?_of_mem mem
        have some : child.faultsIn ≠ [] := by rw [ne_eq, ih child mem, inside]; decide
        obtain ⟨⟨rest, inner⟩, found⟩ := List.exists_mem_of_ne_nil _ some
        exact none _ (mem_faultsAmong.mpr ⟨i, rest, child, rfl, isChild, found⟩)
      · rintro none ⟨place, inner⟩ found
        obtain ⟨i, rest, child, -, isChild, found⟩ := mem_faultsAmong.mp found
        have mem := List.mem_of_getElem? isChild
        have clear : child.hasError = false := by
          rw [← Bool.not_eq_true]
          exact fun inside => none ⟨child, mem, inside⟩
        rw [(ih child mem).mpr clear] at found
        exact List.not_mem_nil found

end TypedMvc.CSharp.Node
