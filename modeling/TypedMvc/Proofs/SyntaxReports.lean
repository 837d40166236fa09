import TypedMvc.Proofs.OrderedRepairs
import TypedMvc.Proofs.SoundTrees
import TypedMvc.Symbols.Snapshot

/-!
# Reports of wrong syntax

The reports for a tree are those of its outermost faults, one for each, in the order of their
places (`diagnosticsIn_eq_map`). The reporter passes over a node with no fault in it, which loses
nothing, and goes no further below a fault, which hides nothing beside it. For the tree of a text
the order of places is that in which the faults start (`start_le_of_place_lt`), and the reports name
the lines that they start on.
-/

namespace TypedMvc.Symbols

open CSharp

variable {file : String}

/-- The report of a fault. -/
def reportOf (file : String) (fault : Node) : Diagnostic :=
  ⟨file, fault.span.line, messageAt fault⟩

/-- The reports of the outermost faults of a tree, one for each, in the order of their places. -/
def AreReportsOf (file : String) (root : Node) (reports : List Diagnostic) : Prop :=
  ∃ faults : List (List ℕ × Node),
    (∀ place node, (place, node) ∈ faults ↔ root.IsOutermost place node) ∧
    (faults.map Prod.fst).Pairwise (· < ·) ∧
    reports = faults.map fun fault => reportOf file fault.2

/-- A fault is reported itself. -/
theorem diagnosticsAt_of_isFault {node : Node} (fault : node.IsFault) :
    diagnosticsAt file node = [reportOf file node] := by
  obtain ⟨label, role, span, supplied, children⟩ := node
  rw [diagnosticsAt]
  exact if_pos fault

/-- At a node that is no fault its children are reported on. -/
theorem diagnosticsAt_of_not_isFault {node : Node} (noFault : ¬ node.IsFault) :
    diagnosticsAt file node = diagnosticsAmong file node.children := by
  obtain ⟨label, role, span, supplied, children⟩ := node
  rw [diagnosticsAt]
  exact if_neg noFault

/-- Passing over siblings without a fault in them loses no report. -/
theorem diagnosticsAmong_eq_map {nodes : List Node}
    (each : ∀ node ∈ nodes, diagnosticsAt file node =
      node.faultsIn.map fun fault => reportOf file fault.2) (k : ℕ) :
    diagnosticsAmong file nodes =
      (Node.faultsAmong k nodes).map fun fault => reportOf file fault.2 := by
  induction nodes generalizing k with
  | nil => simp [diagnosticsAmong, Node.faultsAmong]
  | cons node rest ih =>
    obtain ⟨own, others⟩ := List.forall_mem_cons.mp each
    rw [diagnosticsAmong, Node.faultsAmong, List.map_append, List.map_map, ← ih others (k + 1)]
    split
    · rw [own]
      rfl
    · next passed =>
      have none : node.faultsIn = [] := Node.faultsIn_eq_nil_iff.mpr (Bool.not_eq_true _ ▸ passed)
      rw [none]
      rfl

/-- The reports at a node are those of its outermost faults. -/
theorem diagnosticsAt_eq_map (node : Node) :
    diagnosticsAt file node = node.faultsIn.map fun fault => reportOf file fault.2 := by
  induction node using Node.children_induction with
  | step node ih =>
    by_cases fault : node.IsFault
    · rw [diagnosticsAt_of_isFault fault, Node.faultsIn_of_isFault fault]
      rfl
    · rw [diagnosticsAt_of_not_isFault fault, Node.faultsIn_of_not_isFault fault]
      exact diagnosticsAmong_eq_map ih 0

/-- The reports for a tree are those of its outermost faults. -/
theorem diagnosticsIn_eq_map (root : Node) :
    diagnosticsIn file root = root.faultsIn.map fun fault => reportOf file fault.2 := by
  rw [diagnosticsIn]
  split
  · exact diagnosticsAt_eq_map root
  · next passed =>
    rw [Node.faultsIn_eq_nil_iff.mpr (Bool.not_eq_true _ ▸ passed)]
    rfl

/-- The reports for a tree are those of its outermost faults, in the order of their places. -/
theorem areReportsOf_diagnosticsIn (file : String) (root : Node) :
    AreReportsOf file root (diagnosticsIn file root) :=
  ⟨root.faultsIn, fun _ _ => Node.mem_faultsIn, root.pairwise_faultsIn, diagnosticsIn_eq_map root⟩

/-- There is nothing to report exactly if no place of the tree has a fault. -/
theorem diagnosticsIn_eq_nil_iff {root : Node} :
    diagnosticsIn file root = [] ↔ ∀ place node, root.at? place = some node → ¬ node.IsFault := by
  rw [diagnosticsIn_eq_map, List.map_eq_nil_iff, Node.faultsIn_eq_nil_iff, ← Bool.not_eq_true,
    Node.hasError_iff]
  simp only [not_exists, not_and]

/-- Of two outermost faults in the tree of a text, the one whose place comes first starts first. -/
theorem start_le_of_place_lt (source : Source) {place other : List ℕ} {node inner : Node}
    (first : (parse source).IsOutermost place node)
    (second : (parse source).IsOutermost other inner) (lt : place < other) :
    node.span.start ≤ inner.span.start := by
  have places := (parse source).pairwise_faultsIn
  have starts := pairwise_faultStarts_parse source
  rw [List.pairwise_map, List.pairwise_iff_getElem] at places
  rw [Node.faultStarts, List.pairwise_map, List.pairwise_iff_getElem] at starts
  obtain ⟨i, inFirst, isFirst⟩ := List.getElem_of_mem (Node.mem_faultsIn.mpr first)
  obtain ⟨j, inSecond, isSecond⟩ := List.getElem_of_mem (Node.mem_faultsIn.mpr second)
  rcases Nat.lt_trichotomy i j with before | rfl | behind
  · have ordered := starts i j inFirst inSecond before
    rw [isFirst, isSecond] at ordered
    exact ordered
  · obtain ⟨rfl, -⟩ := Prod.mk.inj (isFirst.symm.trans isSecond)
    exact absurd lt (List.lt_irrefl _)
  · have ordered := places j i inSecond inFirst behind
    rw [isFirst, isSecond] at ordered
    exact absurd (List.lt_trans lt ordered) (List.lt_irrefl _)

/-- No wrong syntax is lost or reported twice: the reports for a tree are one for each outermost
fault, in the order of their places, and there are none exactly if no place of the tree has a fault.
This holds of any tree, and so of that which a parser makes of a file, whatever parser it is. In a
tree that `parse` makes, the order of places is that of the text, and each node says the line it
starts on, counted from one. -/
theorem diagnostics_outermost :
    (∀ file root, AreReportsOf file root (diagnosticsIn file root) ∧
      (diagnosticsIn file root = [] ↔
        ∀ place node, root.at? place = some node → ¬ node.IsFault)) ∧
    (∀ (file : SourceFile) (parser : Parser),
      AreReportsOf file.path (parser (Source.ofString file.text))
        (Snapshot.ofFile file parser).diagnostics) ∧
    ∀ text : String,
      let root := parse (Source.ofString text)
      (∀ place node other inner, root.IsOutermost place node → root.IsOutermost other inner →
          place < other → node.span.start ≤ inner.span.start) ∧
        ∀ place node, root.at? place = some node →
          node.span.line = 1 + (text.toList.take node.span.start).count '\n' := by
  refine ⟨fun file root => ⟨areReportsOf_diagnosticsIn file root, diagnosticsIn_eq_nil_iff⟩,
    fun file parser => areReportsOf_diagnosticsIn _ _,
    fun text => ⟨fun place node other inner first second => ?_, fun place node here => ?_⟩⟩
  · exact start_le_of_place_lt _ first second
  · cases (isSound_parse (Source.ofString text)).at? here with
    | mk counted _ _ => exact counted

/-- A fault inside another one is not reported, and one beside it is. -/
example :
    let brace := Node.mk (.token "\x7d") none ⟨9, 9, 2⟩ true []
    let error := Node.mk .error none ⟨4, 9, 1⟩ false [brace]
    diagnosticsIn "Home.cs" (.mk .compilationUnit none ⟨0, 9, 1⟩ false [error, brace]) =
      [⟨"Home.cs", 1, "syntax error"⟩, ⟨"Home.cs", 2, "missing `\x7d`"⟩] := by
  decide +kernel

end TypedMvc.Symbols
