import Mathlib.Order.Nat
import TypedMvc.CSharp.Language
import TypedMvc.Proofs.OutermostFaults

/-!
# The order of faults in what is read

Where the outermost faults of a tree start is told by `Node.faultStarts`, in the order of their
places. Reading a text goes through its tokens, with the error nodes that repairs have put in front
of some, and whatever the grammar is, the trees that it yields between two tokens have their faults
in order there (`ascends_read`): an error node or a supplied token is met at its place, and the
nodes around it are no faults as long as the grammar wraps nothing in error nodes (`isClean_rules`).
-/

namespace TypedMvc.CSharp

variable {node : Node} {nodes : List Node}

/-! ## Where faults start -/

/-- Where the outermost faults of a tree start. -/
def Node.faultStarts (node : Node) : List ℕ := node.faultsIn.map fun fault => fault.2.span.start

/-- A fault has no others that count. -/
theorem Node.faultStarts_of_isFault (fault : node.IsFault) :
    node.faultStarts = [node.span.start] := by
  rw [faultStarts, faultsIn_of_isFault fault]
  rfl

/-- The faults among siblings are those of the siblings. -/
theorem map_faultsAmong (k : ℕ) :
    (Node.faultsAmong k nodes).map (fun fault => fault.2.span.start) =
      nodes.flatMap Node.faultStarts := by
  induction nodes generalizing k with
  | nil => simp [Node.faultsAmong]
  | cons node rest ih =>
    rw [Node.faultsAmong, List.map_append, List.map_map, ih, List.flatMap_cons]
    rfl

/-- The faults of a node that is none are those of its children. -/
theorem Node.faultStarts_of_not_isFault (noFault : ¬ node.IsFault) :
    node.faultStarts = node.children.flatMap faultStarts := by
  rw [faultStarts, faultsIn_of_not_isFault noFault, map_faultsAmong]

/-- Trees that are faults start where their faults do. -/
theorem flatMap_faultStarts_of_isFault (faults : ∀ node ∈ nodes, node.IsFault) :
    nodes.flatMap Node.faultStarts = nodes.map fun node => node.span.start := by
  rw [List.map_eq_flatMap]
  exact List.flatMap_congr fun node mem => Node.faultStarts_of_isFault (faults node mem)

/-- What a node has faults from is itself or its children, whatever its role is. -/
theorem faultStarts_congr {label : Label} {role other : Option Role} {span : Span} {supplied : Bool}
    {children others : List Node}
    (same : children.flatMap Node.faultStarts = others.flatMap Node.faultStarts) :
    (Node.mk label role span supplied children).faultStarts =
      (Node.mk label other span supplied others).faultStarts := by
  by_cases fault : (Node.mk label role span supplied children).IsFault
  · have alike : (Node.mk label other span supplied others).IsFault := fault
    rw [Node.faultStarts_of_isFault fault, Node.faultStarts_of_isFault alike]
    rfl
  · have alike : ¬ (Node.mk label other span supplied others).IsFault := fault
    rw [Node.faultStarts_of_not_isFault fault, Node.faultStarts_of_not_isFault alike]
    exact same

/-- A role moves no fault. -/
theorem Node.faultStarts_withRole (node : Node) (role : Role) :
    (node.withRole role).faultStarts = node.faultStarts := by
  cases node
  exact faultStarts_congr rfl

/-- Positions in order between two others. -/
structure Ascends (low high : ℕ) (starts : List ℕ) : Prop where
  /-- They are in order. -/
  ordered : starts.Pairwise (· ≤ ·)
  /-- They are not in front of the lower bound. -/
  lower : ∀ start ∈ starts, low ≤ start
  /-- They are not behind the upper bound. -/
  upper : ∀ start ∈ starts, start ≤ high
  /-- The bounds are in order. -/
  bounds : low ≤ high

/-- There may be none. -/
theorem ascends_nil {low high : ℕ} (bounds : low ≤ high) : Ascends low high [] :=
  ⟨.nil, nofun, nofun, bounds⟩

/-- Those up to a position go in front of those from there on. -/
theorem Ascends.append {low middle high : ℕ} {starts others : List ℕ}
    (first : Ascends low middle starts) (second : Ascends middle high others) :
    Ascends low high (starts ++ others) := by
  refine ⟨List.pairwise_append.mpr ⟨first.ordered, second.ordered, ?_⟩, ?_, ?_,
    first.bounds.trans second.bounds⟩
  · exact fun a memA b memB => (first.upper a memA).trans (second.lower b memB)
  · exact List.forall_mem_append.mpr
      ⟨first.lower, fun b mem => first.bounds.trans (second.lower b mem)⟩
  · exact List.forall_mem_append.mpr
      ⟨fun a mem => (first.upper a mem).trans second.bounds, second.upper⟩

/-! ## Reading -/

namespace Grammar

variable {ρ : Type} {items : Array Item}

/-- No node that the grammar wraps things in is an error node. -/
def isClean : Grammar ρ → Bool
  | .empty | .terminal .. | .rule _ => true
  | .seq first second | .choice first second => first.isClean && second.isClean
  | .many body | .ahead body | .notAhead body | .role _ body => body.isClean
  | .node label body => label != .error && body.isClean

/-- The position from which on a token and the errors in front of it lie, for each token, behind
what lies in front of it. -/
structure IsFront (items : Array Item) (front : ℕ → ℕ) : Prop where
  /-- The errors in front of a token start there. -/
  errors : ∀ position item, items[position]? = some item →
    ∀ error ∈ item.errors, error.IsFault ∧ error.span.start = front position
  /-- The token does not start in front of that position. -/
  lower : ∀ position item, items[position]? = some item → front position ≤ item.token.span.start
  /-- Nor does it start behind that of the next one. -/
  upper : ∀ position item, items[position]? = some item →
    item.token.span.start ≤ front (position + 1)

/-- What a match from a position on yields has its faults in order up to where the match ends. -/
def AscendsFrom (front : ℕ → ℕ) (position : ℕ) (outcome : Match) : Prop :=
  ∀ stop nodes, outcome.result = some (stop, nodes) →
    Ascends (front position) (front stop) (nodes.flatMap Node.faultStarts)

variable {front : ℕ → ℕ} {position : ℕ}

/-- A match that yields some trees. -/
theorem ascendsFrom_some {stop : ℕ} {nodes : List Node} {stuck : Stuck}
    (ascends : Ascends (front position) (front stop) (nodes.flatMap Node.faultStarts)) :
    AscendsFrom front position ⟨some (stop, nodes), stuck⟩ := by
  intro _ _ same
  obtain ⟨rfl, rfl⟩ := Prod.mk.inj (Option.some.inj same)
  exact ascends

/-- A match that fails. -/
theorem ascendsFrom_none {stuck : Stuck} : AscendsFrom front position ⟨none, stuck⟩ :=
  fun _ _ same => absurd same (Option.some_ne_none _).symm

/-- The errors in front of a token. -/
theorem IsFront.ascends_errors (isFront : IsFront items front) {item : Item}
    (here : items[position]? = some item) :
    Ascends (front position) (front position) (item.errors.flatMap Node.faultStarts) := by
  have errors := isFront.errors position item here
  rw [flatMap_faultStarts_of_isFault fun error mem => (errors error mem).1]
  have all : ∀ start ∈ item.errors.map fun error => error.span.start, start = front position :=
    List.forall_mem_map.mpr fun error mem => (errors error mem).2
  refine ⟨List.pairwise_of_forall_mem_list fun a memA b memB => ?_, fun a mem => (all a mem).ge,
    fun a mem => (all a mem).le, le_rfl⟩
  rw [all a memA, all b memB]

/-- The errors in front of a token, or none behind the last one. -/
theorem IsFront.ascends_errorsAt (isFront : IsFront items front) (position : ℕ) (quiet : Bool) :
    Ascends (front position) (front position)
      ((if quiet then [] else errorsAt items position).flatMap Node.faultStarts) := by
  rw [errorsAt]
  split
  · exact ascends_nil le_rfl
  · split
    · next item here => exact isFront.ascends_errors here
    · exact ascends_nil le_rfl

/-- Repeating a step goes on from where the last one ends. -/
theorem ascendsFrom_iterate {step : ℕ → Match}
    (each : ∀ position, AscendsFrom front position (step position)) {start : ℕ}
    (limit position : ℕ) {found : List (List Node)} {stuck : Stuck}
    (known : Ascends (front start) (front position)
      (found.reverse.flatten.flatMap Node.faultStarts)) :
    AscendsFrom front start (iterate step limit position found stuck) := by
  induction limit generalizing position found stuck with
  | zero => exact ascendsFrom_some known
  | succ limit ih =>
    rw [iterate]
    split
    · next next nodes yields =>
      split
      · exact ascendsFrom_some known
      · refine ih next ?_
        rw [List.reverse_cons, List.flatten_append, List.flatMap_append, List.flatten_singleton]
        exact known.append (each position next nodes yields)
    · exact ascendsFrom_some known

/-- A token behind the errors in front of it: a supplied one is a fault at its own start. -/
theorem ascendsFrom_terminal (language : Language ρ) (isFront : IsFront items front) (fuel : ℕ)
    (t : Terminal) (suppliable : Bool) (position : ℕ) (quiet : Bool) :
    AscendsFrom front position
      (read language items fuel (.terminal t suppliable) position quiet) := by
  rw [read]
  split
  · next item here =>
    have lower := isFront.lower position item here
    have upper := isFront.upper position item here
    split
    -- The errors in front of the token come first, then the token, a fault if it was supplied.
    · have errors : Ascends (front position) (front position)
          ((if quiet then [] else item.errors).flatMap Node.faultStarts) := by
        split
        · exact ascends_nil le_rfl
        · exact isFront.ascends_errors here
      refine ascendsFrom_some ?_
      rw [List.flatMap_append]
      refine errors.append ?_
      split
      · have fault : (Node.mk (.token item.token.text) none item.token.span true []).IsFault :=
          Or.inr rfl
        rw [List.flatMap_singleton, Node.faultStarts_of_isFault fault]
        exact ⟨List.pairwise_singleton _ _, List.forall_mem_singleton.mpr lower,
          List.forall_mem_singleton.mpr upper, lower.trans upper⟩
      · exact ascends_nil (lower.trans upper)
    · exact ascendsFrom_none
  · split
    · exact ascendsFrom_some (ascends_nil le_rfl)
    · exact ascendsFrom_none

section

variable {language : Language ρ} {fuel : ℕ} {quiet : Bool}

/-- The second grammar goes on from where the first ends. -/
theorem ascendsFrom_seq {first second : Grammar ρ}
    (a : AscendsFrom front position (read language items fuel first position quiet))
    (b : ∀ middle quiet, AscendsFrom front middle (read language items fuel second middle quiet)) :
    AscendsFrom front position (read language items fuel (.seq first second) position quiet) := by
  rw [read]
  dsimp only
  split
  · exact a
  · next middle nodes yields =>
    split
    · exact ascendsFrom_none
    · next stop more yieldsMore =>
      have both := (a middle nodes yields).append (b middle _ stop more yieldsMore)
      refine ascendsFrom_some ?_
      split
      · next nothing =>
        rw [List.isEmpty_iff.mp nothing, List.flatMap_nil, List.append_nil] at both
        exact both
      · rw [List.flatMap_append]
        exact both

/-- A node stands behind the errors in front of it, and if it is no error node its faults are
those of what it wraps. -/
theorem ascendsFrom_node (isFront : IsFront items front) {label : Label} {body : Grammar ρ}
    (notError : label ≠ .error)
    (inner : AscendsFrom front position (read language items fuel body position true)) :
    AscendsFrom front position (read language items fuel (.node label body) position quiet) := by
  have errors := isFront.ascends_errorsAt position quiet
  rw [read]
  dsimp only
  split
  · next stop nodes yields =>
    have noFault : ¬ (Node.mk label none (spanBetween items position stop) false nodes).IsFault :=
      fun fault => fault.elim notError Bool.false_ne_true
    refine ascendsFrom_some ?_
    rw [List.flatMap_append, List.flatMap_singleton, Node.faultStarts_of_not_isFault noFault]
    exact errors.append (inner stop nodes yields)
  · exact ascendsFrom_none

/-- Giving what is read a role moves no fault either. -/
theorem ascendsFrom_role {part : Role} {body : Grammar ρ}
    (inner : AscendsFrom front position (read language items fuel body position quiet)) :
    AscendsFrom front position (read language items fuel (.role part body) position quiet) := by
  rw [read]
  split
  · next stop nodes yields =>
    refine ascendsFrom_some ?_
    rw [List.flatMap_map]
    convert inner stop nodes yields using 2
    ext1 node
    split
    · rfl
    · exact node.faultStarts_withRole part
  · exact inner

end

/-- Reading goes through the tokens and the errors in front of them in order. -/
theorem ascends_read {language : Language ρ} (clean : ∀ name, (language.rules name).isClean = true)
    (isFront : IsFront items front) (fuel : ℕ) : (g : Grammar ρ) → g.isClean = true →
      (position : ℕ) → (quiet : Bool) →
        AscendsFrom front position (read language items fuel g position quiet)
  | .empty, _, position, quiet => by
    rw [read]
    exact ascendsFrom_some (ascends_nil le_rfl)
  | .terminal t suppliable, _, position, quiet =>
    ascendsFrom_terminal language isFront fuel t suppliable position quiet
  | .seq first second, isClean, position, quiet => by
    obtain ⟨cleanFirst, cleanSecond⟩ := Bool.and_eq_true_iff.mp isClean
    exact ascendsFrom_seq (ascends_read clean isFront fuel first cleanFirst position quiet)
      (ascends_read clean isFront fuel second cleanSecond)
  | .choice first second, isClean, position, quiet => by
    obtain ⟨cleanFirst, cleanSecond⟩ := Bool.and_eq_true_iff.mp isClean
    have a := ascends_read clean isFront fuel first cleanFirst position quiet
    have b := ascends_read clean isFront fuel second cleanSecond position quiet
    rw [read]
    split
    · exact a
    · exact b
  | .many body, isClean, position, quiet => by
    rw [read]
    exact ascendsFrom_iterate (fun p => ascends_read clean isFront fuel body isClean p _) _ _
      (ascends_nil le_rfl)
  -- What is only looked at leaves no nodes.
  | .ahead body, _, position, quiet => by
    rw [read]
    split
    · exact ascendsFrom_some (ascends_nil le_rfl)
    · exact ascendsFrom_none
  | .notAhead body, _, position, quiet => by
    rw [read]
    split
    · exact ascendsFrom_none
    · exact ascendsFrom_some (ascends_nil le_rfl)
  -- A rule costs fuel, as its body is no part of it.
  | .rule name, _, position, quiet => by
    cases fuel with
    | zero =>
      rw [read]
      exact ascendsFrom_none
    | succ fuel =>
      rw [read]
      exact ascends_read clean isFront fuel (language.rules name) (clean name) position quiet
  | .node label body, isClean, position, quiet => by
    obtain ⟨notError, cleanBody⟩ := Bool.and_eq_true_iff.mp isClean
    exact ascendsFrom_node isFront (bne_iff_ne.mp notError)
      (ascends_read clean isFront fuel body cleanBody position true)
  | .role _ body, isClean, position, quiet =>
    ascendsFrom_role (ascends_read clean isFront fuel body isClean position quiet)
termination_by g => (fuel, sizeOf g)

end Grammar

/-- No rule of the language wraps things in an error node. -/
theorem isClean_rules (rule : Rule) : (csharp.rules rule).isClean = true := by
  cases rule <;> rfl

end TypedMvc.CSharp
